/-
**The value of a document with one entry for each line.**

* `blockEntries_lines`, `document_lines`: the tokens of the lines make a mapping of scalars;
* `entryData_lines`: the value of that mapping has each name with the value of its scalar;
* `ofYaml_lines`: **such a document has that value**, if its names are distinct.
-/

import TypeSchema.Proofs.Result
import TypeSchema.Proofs.Yaml.Lines
import TypeSchema.Yaml.Value

namespace TypeSchema.Yaml

/-! ### Nodes -/

namespace Line

/-- The nodes of a line. -/
def entry (line : Line) : Node × Node :=
  (.scalar (impliedTag (String.ofList line.name)) (String.ofList line.name),
    .scalar (Compose.scalarTag none line.scalar line.plain) line.scalar)

end Line

namespace Compose

variable {rest : List Token} {failure : Option Error} {handles : List (String × String)}
  {anchors : List (String × Option Node)}

/-- One line of a mapping, and the lines after it. -/
theorem blockEntries_line (line : Line) (fuel : Nat) :
    (blockEntries (fuel + 3)).run ⟨line.tokens ++ rest, failure, handles, anchors⟩ =
      (do return line.entry :: (← blockEntries (fuel + 2))).run
        ⟨rest, failure, handles, anchors⟩ := rfl

theorem blockEntries_lines {lines : List Line} {fuel : Nat} (enough : lines.length + 2 < fuel) :
    (blockEntries fuel).run
        ⟨lines.flatMap Line.tokens ++ .blockEnd :: rest, failure, handles, anchors⟩ =
      .ok (lines.map Line.entry, ⟨rest, failure, handles, anchors⟩) := by
  induction lines generalizing fuel with
  | nil =>
    obtain ⟨fuel, rfl⟩ := Nat.exists_eq_add_of_lt enough
    rfl
  | cons line lines ih =>
    rw [List.length_cons] at enough
    obtain ⟨fuel, rfl⟩ := Nat.exists_eq_add_of_le' (show 3 ≤ fuel by omega)
    have later := @ih (fuel + 2) (by omega)
    rw [List.flatMap_cons, List.append_assoc, blockEntries_line, StateT.run_bind, later]
    rfl

/-- A block mapping is read as a node. -/
theorem node_mapping {tokens : List Token} {entries : List (Node × Node)} {fuel : Nat}
    (read : (blockEntries fuel).run ⟨tokens, failure, handles, anchors⟩ =
      .ok (entries, ⟨rest, failure, handles, anchors⟩)) (indentless : Bool) :
    (node (fuel + 1) true indentless).run
        ⟨.mappingStart :: tokens, failure, handles, anchors⟩ =
      .ok (.mapping (basicTag "map") entries, ⟨rest, failure, handles, anchors⟩) := by
  have step : (node (fuel + 1) true indentless).run
        ⟨.mappingStart :: tokens, failure, handles, anchors⟩ =
      (do return Node.mapping (basicTag "map") (← blockEntries fuel)).run
        ⟨tokens, failure, handles, anchors⟩ := rfl
  rw [step, StateT.run_bind, read]
  rfl

/-- **The one document of the tokens of some lines** is a mapping. -/
theorem document_lines {lines : List Line} {fuel : Nat} (enough : lines.length + 3 < fuel) :
    ((document fuel).run
        ⟨.mappingStart :: (lines.flatMap Line.tokens ++ [.blockEnd, .streamEnd]), failure, handles,
          anchors⟩).map Prod.fst =
      .ok (some (.mapping (basicTag "map") (lines.map Line.entry))) := by
  obtain ⟨fuel, rfl⟩ := Nat.exists_eq_add_of_le' (show 1 ≤ fuel by omega)
  have entries : (blockEntries fuel).run
      ⟨lines.flatMap Line.tokens ++ [.blockEnd, .streamEnd], failure, handles, anchors⟩ =
      .ok (lines.map Line.entry, ⟨[.streamEnd], failure, handles, anchors⟩) :=
    blockEntries_lines (by omega)
  have content : (some <$> node (fuel + 1) true false : Compose (Option Node)).run
      ⟨.mappingStart :: (lines.flatMap Line.tokens ++ [.blockEnd, .streamEnd]), failure, handles,
        anchors⟩ = .ok (some (.mapping (basicTag "map") (lines.map Line.entry)),
          ⟨[.streamEnd], failure, handles, anchors⟩) := by
    rw [StateT.run_map, node_mapping entries]
    rfl
  have first : (peek : Compose Token).run
      ⟨.mappingStart :: (lines.flatMap Line.tokens ++ [.blockEnd, .streamEnd]), failure, handles,
        anchors⟩ = .ok (.mappingStart, ⟨.mappingStart ::
          (lines.flatMap Line.tokens ++ [.blockEnd, .streamEnd]), failure, handles, anchors⟩) := rfl
  unfold document
  rw [StateT.run_bind, first, ok_bind]
  dsimp only
  rw [StateT.run_bind, content]
  rfl

end Compose

theorem length_tokens (lines : List Line) :
    (lines.flatMap Line.tokens).length = 4 * lines.length := by
  induction lines with
  | nil => rfl
  | cons line lines ih =>
    rw [List.flatMap_cons, List.length_append, ih, List.length_cons, Nat.mul_succ, Nat.add_comm]
    rfl

/-- The node of a document with one entry for each line. -/
theorem ofText?_lines {lines : List Line} (some_ : lines ≠ []) (good : ∀ line ∈ lines, line.Reads)
    (allowed : (lines.flatMap Line.text).all isAllowed = true) :
    Node.ofText? (lines.flatMap Line.text) =
      .ok (some (.mapping (basicTag "map") (lines.map Line.entry))) := by
  have size := length_tokens lines
  unfold Node.ofText?
  rw [if_pos allowed, ofText_lines some_ good]
  refine Compose.document_lines ?_
  simp only [List.length_cons, List.length_append, List.length_nil, size]
  omega

/-! ### Values -/

/-- A name with a value, as an entry of a mapping. -/
def named (entry : String × Datum) : Datum × Datum := (.string entry.1, entry.2)

theorem setEntry_named {name : String} {entries : List (String × Datum)}
    (new : name ∉ entries.map Prod.fst) (value : Datum) :
    setEntry (.string name) value (entries.map named) = (entries ++ [(name, value)]).map named := by
  induction entries with
  | nil => rfl
  | cons entry entries ih =>
    rw [List.map_cons, List.mem_cons, not_or] at new
    rw [List.map_cons, named, setEntry, if_neg new.1, ih new.2]
    rfl

/-- Entries with distinct names are kept. -/
theorem collectEntries_named {entries : List (String × Datum)}
    (distinct : (entries.map Prod.fst).Nodup) :
    collectEntries (entries.map named) = entries.map named := by
  have from_ (front back : List (String × Datum)) (distinct : ((front ++ back).map Prod.fst).Nodup) :
      (back.map named).foldl (fun collected entry => setEntry entry.1 entry.2 collected)
        (front.map named) = (front ++ back).map named := by
    induction back generalizing front with
    | nil => rw [List.append_nil]; rfl
    | cons entry back ih =>
      have new : entry.1 ∉ front.map Prod.fst := by
        rw [List.map_append, List.map_cons] at distinct
        exact fun member => (List.nodup_append.mp distinct).2.2 _ member _ List.mem_cons_self rfl
      rw [List.map_cons, List.foldl_cons]
      rw [show named entry = (.string entry.1, entry.2) from rfl, setEntry_named new,
        ih _ (by rwa [List.append_assoc]), List.append_assoc]
      rfl
  exact from_ [] entries distinct

/-- A line has a name that is a text, and a value. -/
structure Line.Means (line : Line) (datum : Datum) : Prop where
  name : impliedTag (String.ofList line.name) = basicTag "str"
  scalar : scalarDatum (Compose.scalarTag none line.scalar line.plain) line.scalar = .ok datum

/-- The entries of lines with values. -/
theorem entryData_lines {lines : List (Line × Datum)}
    (means : ∀ entry ∈ lines, entry.1.Means entry.2) :
    entryData ((lines.map Prod.fst).map Line.entry) =
        .ok (lines.map fun entry => named (String.ofList entry.1.name, entry.2)) ∧
      mergedData ((lines.map Prod.fst).map Line.entry) = .ok [] := by
  induction lines with
  | nil => exact ⟨rfl, rfl⟩
  | cons entry lines ih =>
    obtain ⟨line, datum⟩ := entry
    rw [List.forall_mem_cons] at means
    obtain ⟨⟨name, scalar⟩, others⟩ := means
    obtain ⟨values, merged⟩ := ih others
    have noMerge : isMerge line.entry.1 = false := by
      rw [Line.entry, name]
      rfl
    have key : keyDatum line.entry.1 = .ok (.string (String.ofList line.name)) := by
      rw [Line.entry, name]
      rfl
    have value : line.entry.2.datum = .ok datum := by
      rw [Line.entry, Node.datum]
      exact scalar
    constructor
    · rw [List.map_cons, List.map_cons, show line.entry = (line.entry.1, line.entry.2) from rfl,
        entryData, noMerge, key, value, values]
      rfl
    · rw [List.map_cons, List.map_cons, show line.entry = (line.entry.1, line.entry.2) from rfl,
        mergedData, merged, noMerge]
      rfl

/-- **The value of a document with one entry for each line** has each name with its value, if the
names are distinct. -/
theorem ofYaml_lines {lines : List (Line × Datum)} (some_ : lines ≠ [])
    (good : ∀ entry ∈ lines, entry.1.Reads ∧ entry.1.Means entry.2)
    (distinct : (lines.map fun entry => String.ofList entry.1.name).Nodup) {text : String}
    (written : text.toList = lines.flatMap fun entry => entry.1.text)
    (allowed : text.toList.all isAllowed = true) :
    Datum.ofYaml text =
      .ok (.mapping (lines.map fun entry => named (String.ofList entry.1.name, entry.2))) := by
  have whole : text.toList = (lines.map Prod.fst).flatMap Line.text := by
    rw [written, List.flatMap_map]
  have all : ∀ line ∈ lines.map Prod.fst, line.Reads := by
    intro line member
    obtain ⟨entry, isEntry, rfl⟩ := List.mem_map.mp member
    exact (good entry isEntry).1
  have node := ofText?_lines (mt List.map_eq_nil_iff.mp some_) all (whole ▸ allowed)
  obtain ⟨values, merged⟩ := entryData_lines fun entry member => (good entry member).2
  have names : ((lines.map fun entry => (String.ofList entry.1.name, entry.2)).map Prod.fst).Nodup := by
    rw [List.map_map]
    exact distinct
  have collected := collectEntries_named names
  rw [List.map_map] at collected
  unfold Datum.ofYaml
  rw [whole, node, ok_bind]
  dsimp only
  rw [Node.datum, values, ok_bind, merged, ok_bind, if_pos rfl, List.nil_append]
  exact congrArg (Except.ok ∘ Datum.mapping) collected

end TypeSchema.Yaml
