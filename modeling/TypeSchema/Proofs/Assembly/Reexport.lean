/-
**Following re-exports.**

* `Reexports`: one pair of a module and a name leads to the next, as the first export of that name
  says;
* `Decided`: what a pair comes to where no other module has a say;
* `typeByName_yields_iff`: a search along re-exports comes to what the last pair of a chain of them
  is decided to be, or fails where the chain is too long;
* `reexports_followed`: **a search asks a bounded number of questions and follows the chain of
  re-exports exactly**, cyclic ones included. It fails for the length of a chain exactly when there
  is one with two more pairs than steps are allowed, and does not read the module of the last pair.
-/

import Mathlib.Data.List.Basic
import TypeSchema.Proofs.Assembly.Resolution
import TypeSchema.Proofs.Source.Order

namespace TypeSchema

open Inquiry

variable {may : Command → Except RunError String → Prop} {files other : FileTree} {limit : Nat}
  {path name : String} {exports : List Export} {entry : Export}

/-! ### What a module says about a name -/

/-- The first export of a name, in the order of the source. -/
def FirstNamed (exports : List Export) (name : String) (entry : Export) : Prop :=
  ∃ before after, exports = before ++ entry :: after ∧ entry.name = name ∧
    ∀ earlier ∈ before, earlier.name ≠ name

theorem firstNamed_iff : FirstNamed exports name entry ↔
    (exports.find? fun entry => entry.name == name) = some entry := by
  rw [List.find?_eq_some_iff_append]
  simp only [FirstNamed, beq_iff_eq, Bool.not_eq_true', beq_eq_false_iff_ne]
  constructor
  · rintro ⟨before, after, split, named, first⟩
    exact ⟨named, before, after, split, first⟩
  · rintro ⟨named, before, after, split, first⟩
    exact ⟨before, after, split, named, first⟩

/-- A module of a tree has some declarations, and exports something first under a name. -/
def FileTree.Exports (files : FileTree) (path name : String) (declarations : Declarations)
    (entry : Export) : Prop :=
  ∃ text, files.read (Path.ofText path) = .ok text ∧
    declarations = Declarations.ofSource path text.toList ∧
    FirstNamed declarations.exports name entry

/-- A module exports a name of another module, which is found at the second pair. -/
inductive Reexports (may : Command → Except RunError String → Prop) (files : FileTree) :
    String × String → String × String → Prop where
  | intro {path name localName exported module target : String} {position : Position}
      {declarations : Declarations}
      (exports : files.Exports path name declarations
        (.specifier ⟨localName, exported, some module, position⟩))
      (isTarget : may (.findModule module path) (.ok target)) :
      Reexports may files (path, name) (target, localName)

/-- What a name of a module comes to where no other module has a say: the module cannot be read or
does not export the name, or its first export of the name is an alias, a name that is bound in the
module or not, or a name of a module that cannot be found. -/
inductive Decided (may : Command → Except RunError String → Prop) (files : FileTree) :
    String × String → Except AssemblyError Referent → Prop where
  | unreadable {path name : String} {error : FileError}
      (unread : files.read (Path.ofText path) = .error error) :
      Decided may files (path, name) (.error (.file error))
  | notExported {path name text : String} (read : files.read (Path.ofText path) = .ok text)
      (absent : ∀ entry ∈ (Declarations.ofSource path text.toList).exports, entry.name ≠ name) :
      Decided may files (path, name) (.error (.notFound name path))
  | declared {path name : String} {declarations : Declarations} {declaration : AliasDeclaration}
      {result : Except AssemblyError ResolvedType}
      (exports : files.Exports path name declarations (.declared declaration))
      (asked : (typeAt path declaration.position).Yields may result) :
      Decided may files (path, name) (result.map .type)
  | bound {path name localName exported : String} {position place : Position}
      {declarations : Declarations} {result : Except AssemblyError ResolvedType}
      (exports : files.Exports path name declarations
        (.specifier ⟨localName, exported, none, position⟩))
      (isBound : declarations.localPosition? localName = some place)
      (asked : (typeAt path place).Yields may result) :
      Decided may files (path, name) (result.map .type)
  | unbound {path name localName exported : String} {position : Position}
      {declarations : Declarations}
      (exports : files.Exports path name declarations
        (.specifier ⟨localName, exported, none, position⟩))
      (isUnbound : declarations.localPosition? localName = none) :
      Decided may files (path, name) (.ok (.unbound name))
  | noModule {path name localName exported module : String} {position : Position}
      {declarations : Declarations} {error : RunError}
      (exports : files.Exports path name declarations
        (.specifier ⟨localName, exported, some module, position⟩))
      (unanswered : may (.findModule module path) (.error error)) :
      Decided may files (path, name) (.error (.run error))

/-! ### Searches -/

theorem yields_answer_iff {command : Command} {result : Except AssemblyError String} :
    (answer command).Yields may result ↔
      ∃ reply, may command reply ∧ result = reply.mapError .run := by
  rw [answer, yields_ask_iff]
  simp only [Inquiry.ofExcept, yields_settled_iff]

/-- What a search goes on with once the first export of its name is known. -/
def afterExport (files : FileTree) (limit hops : Nat) (front : List (String × String))
    (path name : String) (declarations : Declarations) : Export → Inquiry Referent
  | .declared declaration => .type <$> typeAt path declaration.position
  | .specifier ⟨localName, _, none, _⟩ => declarations.referent localName name
  | .specifier ⟨localName, _, some module, _⟩ => do
    let target ← answer (.findModule module path)
    typeByName files limit hops (front ++ [(path, name)]) target localName

variable {hops : Nat} {front : List (String × String)} {declarations : Declarations}
  {result : Except AssemblyError Referent}

theorem declarations_of_read {text : String} (read : files.read (Path.ofText path) = .ok text) :
    files.declarations path = .settled (.ok (.ofSource path text.toList)) := by
  rw [FileTree.declarations, read]
  rfl

theorem settled_ok_bind {α β : Type} (value : α) (next : α → Inquiry β) :
    (settled (.ok value) >>= next) = next value := rfl

theorem typeByName_of_exports (exports : files.Exports path name declarations entry) :
    typeByName files limit (hops + 1) front path name =
      afterExport files limit hops front path name declarations entry := by
  obtain ⟨text, read, rfl, first⟩ := exports
  rw [typeByName, declarations_of_read read, settled_ok_bind, firstNamed_iff.mp first]
  rcases entry with declaration | ⟨localName, exported, _ | module, position⟩
  · rfl
  · rfl
  · rfl

theorem typeByName_of_absent {text : String} (read : files.read (Path.ofText path) = .ok text)
    (absent : ∀ entry ∈ (Declarations.ofSource path text.toList).exports, entry.name ≠ name) :
    typeByName files limit (hops + 1) front path name = .fail (.notFound name path) := by
  have none : (Declarations.ofSource path text.toList).exports.find?
      (fun entry => entry.name == name) = none := by
    simpa using absent
  rw [typeByName, declarations_of_read read, settled_ok_bind, none]

theorem typeByName_of_unreadable {error : FileError}
    (unread : files.read (Path.ofText path) = .error error) :
    typeByName files limit (hops + 1) front path name = .fail (.file error) := by
  rw [typeByName, FileTree.declarations, unread]
  rfl

/-- **One hop**: the module decides, or its first export of the name leads to another pair. -/
theorem typeByName_step :
    (typeByName files limit (hops + 1) front path name).Yields may result ↔
      Decided may files (path, name) result ∨
        ∃ next, Reexports may files (path, name) next ∧
          (typeByName files limit hops (front ++ [(path, name)]) next.1 next.2).Yields may
            result := by
  constructor
  · intro yields
    cases read : files.read (Path.ofText path) with
    | error error =>
      rw [typeByName_of_unreadable read] at yields
      cases yields
      exact .inl (.unreadable read)
    | ok text =>
      cases found : (Declarations.ofSource path text.toList).exports.find?
          (fun entry => entry.name == name) with
      | none =>
        have absent : ∀ entry ∈ (Declarations.ofSource path text.toList).exports,
            entry.name ≠ name := by simpa using found
        rw [typeByName_of_absent read absent] at yields
        cases yields
        exact .inl (.notExported read absent)
      | some entry =>
        have exports : files.Exports path name (.ofSource path text.toList) entry :=
          ⟨text, read, rfl, firstNamed_iff.mpr found⟩
        rw [typeByName_of_exports exports] at yields
        rcases entry with declaration | ⟨localName, exported, _ | module, position⟩
        · obtain ⟨outcome, asked, rfl⟩ := yields_map_iff.mp yields
          exact .inl (.declared exports asked)
        · rw [afterExport, Declarations.referent] at yields
          split at yields
          · rename_i isUnbound
            cases yields
            exact .inl (.unbound exports isUnbound)
          · rename_i place isBound
            obtain ⟨outcome, asked, rfl⟩ := yields_map_iff.mp yields
            exact .inl (.bound exports isBound asked)
        · obtain ⟨target, answered, goesOn⟩ | ⟨error, failed, rfl⟩ := yields_bind_iff.mp yields
          · exact .inr ⟨(target, localName), ⟨exports, yields_answer_ok_iff.mp answered⟩, goesOn⟩
          · obtain ⟨reply | _, isReply, same⟩ := yields_answer_iff.mp failed
            · cases same
              exact .inl (.noModule exports isReply)
            · cases same
  · rintro (decided | ⟨next, ⟨exports, isTarget⟩, goesOn⟩)
    · cases decided with
      | unreadable unread =>
        rw [typeByName_of_unreadable unread]
        exact .settled _
      | notExported read absent =>
        rw [typeByName_of_absent read absent]
        exact .settled _
      | declared exports asked =>
        rw [typeByName_of_exports exports]
        exact yields_map_iff.mpr ⟨_, asked, rfl⟩
      | bound exports isBound asked =>
        rw [typeByName_of_exports exports, afterExport, Declarations.referent, isBound]
        obtain ⟨text, -, rfl, -⟩ := exports
        exact yields_map_iff.mpr ⟨_, asked, rfl⟩
      | unbound exports isUnbound =>
        rw [typeByName_of_exports exports, afterExport, Declarations.referent, isUnbound]
        exact .settled _
      | noModule exports unanswered =>
        rw [typeByName_of_exports exports]
        exact yields_bind_iff.mpr
          (.inr ⟨_, yields_answer_iff.mpr ⟨_, unanswered, rfl⟩, rfl⟩)
    · rw [typeByName_of_exports exports]
      exact yields_bind_iff.mpr (.inl ⟨_, yields_answer_ok_iff.mpr isTarget, goesOn⟩)

/-! ### Chains -/

/-- Pairs of modules and names from a first one on, each the one that its predecessor re-exports. -/
structure ReexportChain (may : Command → Except RunError String → Prop) (files : FileTree)
    (first : String × String) (chain : List (String × String)) : Prop where
  starts : chain.head? = some first
  leads : chain.IsChain (Reexports may files)

theorem reexportChain_cons_iff {first pair : String × String} {rest : List (String × String)} :
    ReexportChain may files first (pair :: rest) ↔ pair = first ∧
      (rest = [] ∨ ∃ next, Reexports may files pair next ∧ ReexportChain may files next rest) := by
  constructor
  · rintro ⟨starts, leads⟩
    refine ⟨Option.some.inj starts, ?_⟩
    cases rest with
    | nil => exact .inl rfl
    | cons next more =>
      obtain ⟨hop, leads⟩ := List.isChain_cons_cons.mp leads
      exact .inr ⟨next, hop, rfl, leads⟩
  · rintro ⟨rfl, rfl | ⟨next, hop, starts, leads⟩⟩
    · exact ⟨rfl, .singleton _⟩
    · cases rest with
      | nil => cases starts
      | cons other more =>
        cases starts
        exact ⟨rfl, .cons_cons hop leads⟩

/-- **What a search comes to**: what the last pair of a chain is decided to be, or a failure where
the chain is too long. -/
theorem typeByName_yields_iff : (typeByName files limit hops front path name).Yields may result ↔
    ∃ chain, ReexportChain may files (path, name) chain ∧
      ((chain.length ≤ hops ∧ ∃ last, chain.getLast? = some last ∧ Decided may files last result) ∨
        chain.length = hops + 1 ∧ result = .error (.longChain ⟨front ++ chain, limit⟩)) := by
  induction hops generalizing front path name with
  | zero =>
    constructor
    · intro yields
      cases yields
      exact ⟨[(path, name)], reexportChain_cons_iff.mpr ⟨rfl, .inl rfl⟩, .inr ⟨rfl, rfl⟩⟩
    · rintro ⟨chain, follows, ⟨short, -⟩ | ⟨long, rfl⟩⟩
      · rw [List.length_eq_zero_iff.mp (Nat.le_zero.mp short)] at follows
        cases follows.starts
      · obtain ⟨pair, rfl⟩ := List.length_eq_one_iff.mp long
        cases follows.starts
        exact .settled _
  | succ hops ih =>
    rw [typeByName_step]
    constructor
    · rintro (decided | ⟨next, hop, goesOn⟩)
      · exact ⟨[(path, name)], reexportChain_cons_iff.mpr ⟨rfl, .inl rfl⟩,
          .inl ⟨by simp, _, rfl, decided⟩⟩
      · obtain ⟨chain, follows, ends⟩ := ih.mp goesOn
        refine ⟨(path, name) :: chain, reexportChain_cons_iff.mpr ⟨rfl, .inr ⟨next, hop, follows⟩⟩,
          ?_⟩
        obtain ⟨pair, rest, rfl⟩ : ∃ pair rest, chain = pair :: rest :=
          List.exists_cons_of_ne_nil fun none => by cases none ▸ follows.starts
        rw [List.getLast?_cons_cons, List.length_cons]
        rcases ends with ⟨short, decided⟩ | ⟨long, rfl⟩
        · exact .inl ⟨Nat.succ_le_succ short, decided⟩
        · exact .inr ⟨congrArg _ long, by rw [List.append_assoc]; rfl⟩
    · rintro ⟨chain, follows, ends⟩
      cases chain with
      | nil => cases follows.starts
      | cons pair rest =>
        obtain ⟨rfl, rfl | ⟨next, hop, follows⟩⟩ := reexportChain_cons_iff.mp follows
        · rcases ends with ⟨-, last, isLast, decided⟩ | ⟨long, -⟩
          · cases isLast
            exact .inl decided
          · simp at long
        · refine .inr ⟨next, hop, ih.mpr ⟨rest, follows, ?_⟩⟩
          obtain ⟨other, more, rfl⟩ : ∃ other more, rest = other :: more :=
            List.exists_cons_of_ne_nil fun none => by cases none ▸ follows.starts
          rw [List.getLast?_cons_cons, List.length_cons] at ends
          rcases ends with ⟨short, decided⟩ | ⟨long, rfl⟩
          · exact .inl ⟨Nat.le_of_succ_le_succ short, decided⟩
          · exact .inr ⟨Nat.succ.inj long, by rw [List.append_assoc]; rfl⟩

/-- A type that is looked up is no chain that is too long. -/
theorem typeAt_not_longChain {position : Position} {error : LongChain} :
    ¬ (typeAt path position).Yields may (.error (.longChain error)) := by
  intro yields
  obtain ⟨text, -, yields⟩ | ⟨failure, asked, same⟩ := yields_bind_iff.mp yields
  · obtain ⟨statement, -, yields⟩ | ⟨failure, read, same⟩ := yields_bind_iff.mp yields
    · cases yields
    · rw [Inquiry.ofExcept, yields_settled_iff] at read
      cases same
      cases found : Alias.ofText text.toList (some path) position with
      | error | ok => rw [found] at read; cases read
  · cases same
    obtain ⟨reply | reply, -, same⟩ := yields_answer_iff.mp asked
    · cases same
    · cases same

/-- No module decides that a chain is too long. -/
theorem Decided.not_longChain {last : String × String} {error : LongChain} :
    ¬ Decided may files last (.error (.longChain error)) := by
  intro decided
  generalize same : Except.error (AssemblyError.longChain error) = result at decided
  cases decided with
  | @declared _ _ _ _ outcome _ asked | @bound _ _ _ _ _ _ _ outcome _ _ asked =>
    cases outcome with
    | error failure =>
      cases same
      exact typeAt_not_longChain asked
    | ok => cases same
  | unreadable | notExported | unbound | noModule => cases same

/-- A chain depends only on the modules before its last pair. -/
theorem ReexportChain.of_agree {first : String × String} {chain : List (String × String)}
    (follows : ReexportChain may files first chain)
    (agree : ∀ pair ∈ chain.dropLast,
      other.read (Path.ofText pair.1) = files.read (Path.ofText pair.1)) :
    ReexportChain may other first chain := by
  induction chain generalizing first with
  | nil => exact ⟨follows.starts, .nil⟩
  | cons pair rest ih =>
    obtain ⟨rfl, rfl | ⟨next, hop, more⟩⟩ := reexportChain_cons_iff.mp follows
    · exact reexportChain_cons_iff.mpr ⟨rfl, .inl rfl⟩
    · have nonempty : rest ≠ [] := fun none => by cases none ▸ more.starts
      rw [List.dropLast_cons_of_ne_nil nonempty] at agree
      refine reexportChain_cons_iff.mpr ⟨rfl, .inr ⟨next, ?_, ih more fun pair member =>
        agree pair (List.mem_cons_of_mem _ member)⟩⟩
      obtain ⟨⟨text, read, isModule, first⟩, isTarget⟩ := hop
      have same := agree _ List.mem_cons_self
      exact ⟨⟨text, same.trans read, isModule, first⟩, isTarget⟩

/-- **Re-exports are followed exactly.** A search asks no more questions than modules may be read,
and comes to something. It comes to what the last pair of a chain of re-exports from its start is
decided to be, if the chain has at most `limit` hops, and fails with a chain of `limit + 2` pairs
exactly where there is one; whatever stands in the module of the last of these pairs, if it exists
at all, is not looked at. -/
theorem reexports_followed (answered : ∀ command, ∃ answer, may command answer)
    (files : FileTree) (limit : Nat) (path name : String) :
    let search := typeByName files limit (limit + 1) [] path name
    search.AsksAtMost Retried (limit + 1) ∧
    (∃ result, search.Yields may result) ∧
    (∀ result, search.Yields may result ↔
      ∃ chain, ReexportChain may files (path, name) chain ∧
        ((chain.length ≤ limit + 1 ∧
          ∃ last, chain.getLast? = some last ∧ Decided may files last result) ∨
        chain.length = limit + 2 ∧ result = .error (.longChain ⟨chain, limit⟩))) ∧
    (∀ error, search.Yields may (.error (.longChain error)) ↔
      ∃ chain, ReexportChain may files (path, name) chain ∧ chain.length = limit + 2 ∧
        error = ⟨chain, limit⟩) ∧
    ∀ chain, ReexportChain may files (path, name) chain → chain.length = limit + 2 →
      ∀ other : FileTree, (∀ pair ∈ chain.dropLast,
        other.read (Path.ofText pair.1) = files.read (Path.ofText pair.1)) →
      (typeByName other limit (limit + 1) [] path name).Yields may
        (.error (.longChain ⟨chain, limit⟩)) := by
  refine ⟨typeByName_asks _ _ _ _ _ _, exists_yields answered _, fun result => ?_, fun error => ?_,
    fun chain follows long other agree => ?_⟩
  · exact typeByName_yields_iff
  · rw [typeByName_yields_iff]
    constructor
    · rintro ⟨chain, follows, ⟨-, last, -, decided⟩ | ⟨long, same⟩⟩
      · exact (decided.not_longChain).elim
      · cases same
        exact ⟨chain, follows, long, rfl⟩
    · rintro ⟨chain, follows, long, rfl⟩
      exact ⟨chain, follows, .inr ⟨long, rfl⟩⟩
  · exact typeByName_yields_iff.mpr ⟨chain, follows.of_agree agree, .inr ⟨long, rfl⟩⟩

/-- A module that re-exports a name from itself. -/
def selfReexport : FileTree := .ofFiles [("x.js", "export type {X} from './x';\n")]

/-- The name leads back to itself. -/
theorem reexports_selfReexport :
    Reexports (fun _ answer => answer = .ok "x.js") selfReexport ("x.js", "X") ("x.js", "X") := by
  have located : locatedExports "export type {X} from './x';\n".toList =
      [(0, .specifier ⟨"X", "X", some "./x", ⟨1, 14⟩⟩)] := by decide +kernel
  have only := exports_ofSource "x.js" located (List.pairwise_singleton _ _)
  exact .intro ⟨_, by decide +kernel, rfl, [], [], only, rfl, nofun⟩ rfl

/-- A module that re-exports a name from itself, where one hop is allowed. -/
theorem reexports_followed_selfReexport : (∀ command : Command, ∃ answer : Except RunError String,
      (fun _ answer => answer = .ok "x.js") command answer) ∧
    (typeByName selfReexport 1 2 [] "x.js" "X").Yields (fun _ answer => answer = .ok "x.js")
      (.error (.longChain ⟨[("x.js", "X"), ("x.js", "X"), ("x.js", "X")], 1⟩)) := by
  have answered : ∀ command : Command, ∃ answer : Except RunError String,
      (fun _ answer => answer = .ok "x.js") command answer := fun _ => ⟨_, rfl⟩
  have chain : ReexportChain (fun _ answer => answer = .ok "x.js") selfReexport ("x.js", "X")
      [("x.js", "X"), ("x.js", "X"), ("x.js", "X")] :=
    ⟨rfl, .cons_cons reexports_selfReexport (.cons_cons reexports_selfReexport (.singleton _))⟩
  exact ⟨answered,
    ((reexports_followed answered selfReexport 1 "x.js" "X").2.2.2.1 _).mpr ⟨_, chain, rfl, rfl⟩⟩

end TypeSchema
