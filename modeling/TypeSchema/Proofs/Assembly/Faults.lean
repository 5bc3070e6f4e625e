/-
**Faults of the aliases of a listing.**

* `Declarations.source_eq`: the right side of an exported alias stands in the source, from the
  offset that is kept with it;
* `registryOfListing_fault`: **the first right side of a listing that is no type** is reported where
  it stands in the listing;
* `faults_in_file`: **a fault of a type is reported where it stands in the file**, whether the type
  is read alone, in an alias statement or in a listing.
-/

import TypeSchema.Assembly.Run
import TypeSchema.Proofs.Result
import TypeSchema.Proofs.Source.Mask
import TypeSchema.Proofs.Source.Order
import TypeSchema.Proofs.TypeExpr.Places

namespace TypeSchema

variable {path : String} {source masked text : List Char} {declaration : AliasDeclaration}
  {fault : SyntaxFault} {offset : Nat} {registry middle : Registry} {session : Session}

/-! ### Right sides -/

theorem length_slice_le (text : List Char) (start stop : Nat) :
    (slice text start stop).length ≤ text.length - start := by
  rw [slice, List.length_drop, List.length_take]
  omega

/-- The right side of an alias begins inside the source. -/
theorem aliasAt?_sideStart {head : AliasStart}
    (found : aliasAt? source masked offset head = some declaration) :
    declaration.sideStart ≤ masked.length := by
  rw [aliasAt?] at found
  split_ifs at found
  split at found
  · cases found
  rename_i side isSide
  have inside : side ≤ masked.length := by
    obtain ⟨front, more, rfl, rfl, -⟩ := rightSideStart?_eq_some isSide
    simp only [List.length_append, List.length_cons]
    omega
  have bound (stop : Nat) := length_slice_le masked side stop
  split at found
  · cases found
    have atMost := bound (aliasEnd '=' 0 none side (masked.drop side)).1
    dsimp only
    omega
  · cases found
    have atMost := bound (aliasEnd '=' 0 none side (masked.drop side)).1
    dsimp only
    omega
  · cases found

/-- The exported aliases of a source are found in it. -/
theorem Declarations.mem_findAliases
    (isListed : declaration ∈ (Declarations.ofSource path source).exportedAliases) :
    declaration ∈ findAliases source (mask source) := by
  obtain ⟨listed, member, isDeclared⟩ := List.mem_filterMap.mp isListed
  obtain ⟨⟨place, found⟩, isExport, rfl⟩ := List.mem_map.mp member
  have isExport := List.mem_mergeSort.mp isExport
  cases found with
  | specifier => cases isDeclared
  | declared found =>
    cases isDeclared
    rcases List.mem_append.mp isExport with isAlias | isName
    · obtain ⟨found, isFound, same⟩ := List.mem_map.mp isAlias
      cases same
      exact (List.mem_filter.mp isFound).1
    · obtain ⟨⟨offset, block⟩, -, isExport⟩ := List.mem_flatMap.mp isName
      dsimp only at isExport
      rw [exportsOf] at isExport
      split_ifs at isExport
      · obtain ⟨_, -, same⟩ := List.mem_map.mp isExport
        cases same
      · cases isExport

/-- **The right side of an exported alias** stands in the source, from the offset that is kept with
it. -/
theorem Declarations.source_eq
    (isListed : declaration ∈ (Declarations.ofSource path source).exportedAliases) :
    ∃ before after, before.length = declaration.sideStart ∧
      source = before ++ (Declarations.ofSource path source).rightSide declaration ++ after := by
  obtain ⟨⟨offset, head⟩, -, found⟩ := List.mem_filterMap.mp (mem_findAliases isListed)
  have inside := aliasAt?_sideStart found
  rw [length_mask] at inside
  refine ⟨source.take declaration.sideStart,
    (source.drop declaration.sideStart).drop (declaration.sideStop - declaration.sideStart),
    List.length_take_of_le inside, ?_⟩
  show source = _ ++ slice source _ _ ++ _
  rw [slice, List.drop_take, List.append_assoc, List.take_append_drop, List.take_append_drop]

/-! ### Listings -/

/-- A right side that is no type is reported where it stands in the source. -/
theorem Declarations.listedFinding_fault
    (isListed : declaration ∈ (Declarations.ofSource path source).exportedAliases)
    (failed : TypeExpr.ofText ((Declarations.ofSource path source).rightSide declaration) =
      .error (fault, offset)) :
    (Declarations.ofSource path source).listedFinding declaration = .error (.text ⟨fault, some path,
      positionAt source (declaration.sideStart + offset : Nat)⟩) := by
  obtain ⟨before, after, place, inFile⟩ := source_eq isListed
  have reported := TypeNode.ofText_in_file failed before after (some path)
  rw [← inFile, place] at reported
  have reads : TypeNode.ofText ((ofSource path source).rightSide declaration) (some path)
      (positionAt source declaration.sideStart) = .error ⟨fault, some path,
        positionAt source (declaration.sideStart + offset : Nat)⟩ := reported
  show (TypeNode.ofText ((ofSource path source).rightSide declaration) (some path)
      (positionAt source declaration.sideStart)).mapError AssemblyError.text >>= _ = _
  rw [reads]
  rfl

/-- What is behind findings that are taken down is taken down next. -/
theorem recordListed_append {first : List (Except AssemblyError Finding)}
    (recorded : (recordListed first registry session).1 = .ok middle)
    (rest : List (Except AssemblyError Finding)) :
    ∃ after, recordListed (first ++ rest) registry session = recordListed rest middle after := by
  induction first generalizing registry session with
  | nil =>
    cases recorded
    exact ⟨session, rfl⟩
  | cons result first ih =>
    obtain error | finding := result
    · cases recorded
    · rw [recordListed] at recorded
      rw [List.cons_append, recordListed]
      cases added : registry.record finding with
      | error =>
        rw [added] at recorded
        cases recorded
      | ok next =>
        rw [added] at recorded
        exact ih recorded

/-- **The first right side of a listing that is no type** is reported where it stands. -/
theorem registryOfListing_fault {listing : String} {earlier later : List AliasDeclaration}
    (listed : (Declarations.ofSource path listing.toList).exportedAliases =
      earlier ++ declaration :: later)
    (recorded : (recordListed (earlier.map
      (Declarations.ofSource path listing.toList).listedFinding) .empty session).1 = .ok registry)
    (failed : TypeExpr.ofText
      ((Declarations.ofSource path listing.toList).rightSide declaration) =
        .error (fault, offset)) :
    (registryOfListing path listing session).1 = .error (.text ⟨fault, some path,
      positionAt listing.toList (declaration.sideStart + offset : Nat)⟩) := by
  have isListed : declaration ∈ (Declarations.ofSource path listing.toList).exportedAliases := by
    rw [listed]
    exact List.mem_append_right _ List.mem_cons_self
  obtain ⟨after, next⟩ := recordListed_append recorded ((declaration :: later).map
    (Declarations.ofSource path listing.toList).listedFinding)
  rw [registryOfListing, listed, List.map_append, next, List.map_cons,
    Declarations.listedFinding_fault isListed failed, recordListed]

/-- **A fault of a type is reported where it stands in the file.** What is reported of a text alone
is shifted to the place of the text, also for the right side of an alias statement, and the right
sides of a listing are placed where they stand in it. Whether a text has a type, and which one, does
not depend on the place. -/
theorem faults_in_file :
    (∀ (before text after : List Char) (path : Option String) (fault : SyntaxFault) (offset : Nat),
      TypeExpr.ofText text = .error (fault, offset) →
        offset ≤ text.length ∧
        TypeNode.ofText text none .first = .error ⟨fault, none, positionAt text offset⟩ ∧
        TypeNode.ofText text path (positionAt (before ++ text ++ after) before.length) =
          .error ⟨fault, path,
            positionAt (before ++ text ++ after) (before.length + offset : Nat)⟩) ∧
    (∀ (text : List Char) (path other : Option String) (start place : Position),
      (TypeNode.ofText text path start).toOption = (TypeNode.ofText text other place).toOption) ∧
    (∀ (before text after front source : List Char) (path : Option String) (fault : SyntaxFault)
        (offset : Nat),
      Alias.rightSide? text = some (front, source) →
      TypeExpr.ofText source = .error (fault, offset) →
        front ++ source <+: text ∧
        Alias.ofText text path (positionAt (before ++ text ++ after) before.length) =
          .error ⟨fault, path, positionAt (before ++ text ++ after)
            (before.length + front.length + offset : Nat)⟩) ∧
    ∀ (path listing : String) (session : Session) (earlier later : List AliasDeclaration)
        (declaration : AliasDeclaration) (registry : Registry) (fault : SyntaxFault)
        (offset : Nat),
      (Declarations.ofSource path listing.toList).exportedAliases =
        earlier ++ declaration :: later →
      (recordListed (earlier.map (Declarations.ofSource path listing.toList).listedFinding) .empty
        session).1 = .ok registry →
      TypeExpr.ofText ((Declarations.ofSource path listing.toList).rightSide declaration) =
        .error (fault, offset) →
        (∃ before after, before.length = declaration.sideStart ∧ listing.toList =
          before ++ (Declarations.ofSource path listing.toList).rightSide declaration ++ after) ∧
        (registryOfListing path listing session).1 = .error (.text ⟨fault, some path,
          positionAt listing.toList (declaration.sideStart + offset : Nat)⟩) := by
  refine ⟨fun before text after path fault offset failed => ⟨offset_le_of_ofText failed, ?_,
    TypeNode.ofText_in_file failed before after path⟩, TypeNode.toOption_ofText,
    fun before text after front source path fault offset split failed =>
      ⟨(Alias.parts_of_rightSide split).1, Alias.ofText_in_file split failed before after path⟩,
    fun path listing session earlier later declaration registry fault offset listed recorded
      failed => ⟨?_, registryOfListing_fault listed recorded failed⟩⟩
  · rw [TypeNode.ofText_of_fault failed, Position.within_first]
  · refine Declarations.source_eq ?_
    rw [listed]
    exact List.mem_append_right _ List.mem_cons_self

/-- A listing with an alias whose right side is no type, behind one whose right side is a type. -/
def brokenListing : String := "export type A = string;\nexport type B =\n  Array<>;\n"

/-- The aliases of the listing. -/
def brokenAliases : List AliasDeclaration :=
  [⟨"A", true, ⟨1, 13⟩, 0, 23, 16, 22⟩, ⟨"B", true, ⟨2, 13⟩, 24, 50, 42, 49⟩]

theorem exportedAliases_brokenListing :
    (Declarations.ofSource "e.js" brokenListing.toList).exportedAliases = brokenAliases := by
  have located : locatedExports brokenListing.toList =
      brokenAliases.map fun found => (found.start, .declared found) := by
    rw [brokenListing, String.toList_ofList]
    decide +kernel
  rw [Declarations.exportedAliases, exports_ofSource "e.js" located (by decide)]
  rfl

theorem recordListed_brokenListing : ∃ registry, (recordListed ((brokenAliases.take 1).map
    (Declarations.ofSource "e.js" brokenListing.toList).listedFinding) .empty {}).1 =
      .ok registry := by
  have known : ((recordListed ((brokenAliases.take 1).map
      (Declarations.ofSource "e.js" brokenListing.toList).listedFinding) .empty
        {}).1.toOption).isSome = true := by
    rw [brokenListing, String.toList_ofList]
    decide +kernel
  obtain ⟨registry, isRegistry⟩ := Option.isSome_iff_exists.mp known
  exact ⟨registry, eq_ok_of_toOption isRegistry⟩

/-- The same fault alone, in a file, in a statement of the file, and in the listing. -/
theorem faults_in_file_brokenListing :
    TypeNode.ofText "[\n  ;".toList none .first =
      .error ⟨.token ";", none, ⟨2, 3⟩⟩ ∧
    TypeNode.ofText "[\n  ;".toList (some "f.js") ⟨1, 3⟩ =
      .error ⟨.token ";", some "f.js", ⟨2, 3⟩⟩ ∧
    Alias.ofText "type A =\n ;;".toList (some "f.js") ⟨1, 3⟩ =
      .error ⟨.token ";", some "f.js", ⟨2, 2⟩⟩ ∧
    (registryOfListing "e.js" brokenListing {}).1 =
      .error (.text ⟨.token ">", some "e.js", ⟨3, 9⟩⟩) := by
  obtain ⟨texts, -, statements, listings⟩ := faults_in_file
  have alone : TypeExpr.ofText "[\n  ;".toList = .error (.token ";", 4) := by
    with_unfolding_all rfl
  obtain ⟨registry, recorded⟩ := recordListed_brokenListing
  have listed := listings "e.js" brokenListing {} (brokenAliases.take 1) []
    ⟨"B", true, ⟨2, 13⟩, 24, 50, 42, 49⟩ registry (.token ">") 6 exportedAliases_brokenListing
    recorded (by with_unfolding_all rfl)
  exact ⟨(texts [] _ [] none _ _ alone).2.1, (texts "x ".toList _ [] (some "f.js") _ _ alone).2.2,
    (statements "x ".toList "type A =\n ;;".toList [] "type A =\n ".toList ";".toList
      (some "f.js") (.token ";") 0 (by decide +kernel) (by with_unfolding_all rfl)).2,
    listed.2⟩

end TypeSchema
