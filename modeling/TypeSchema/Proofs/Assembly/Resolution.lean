/-
**What an export comes to.**

* `finding_asks`: **the inquiry for an export asks only what is retried**, and no more often than
  the allowed length of a chain of modules, and three times more;
* `Leads`: the name under which a chain of modules exports what is bound nowhere;
* `Accounts`, `finding_accounts`: **an export comes to a finding of its own name**. Only where it is
  followed through other modules and is bound in none of them, it is skipped under the name that it
  has in the last one.
-/

import TypeSchema.Assembly.Resolution
import TypeSchema.Proofs.Assembly.Inquiry

namespace TypeSchema

open Inquiry

variable {files : FileTree} {limit : Nat} {declarations : Declarations}

/-! ### Numbers of questions -/

theorem retried_typeAt (path : String) (line column : Int) :
    Retried (.typeAt path line column) := rfl

theorem retried_findModule (name path : String) : Retried (.findModule name path) := rfl

theorem typeAt_asks (path : String) (position : Position) :
    (typeAt path position).AsksAtMost Retried 1 :=
  (asksAtMost_answer (retried_typeAt _ _ _)).bind fun _ =>
    (asksAtMost_settled _ _ 0).bind fun _ => asksAtMost_settled _ _ 0

theorem referent_asks (declarations : Declarations) (name exported : String) :
    (declarations.referent name exported).AsksAtMost Retried 1 := by
  rw [Declarations.referent]
  split
  · exact asksAtMost_settled _ _ _
  · exact (typeAt_asks _ _).map _

theorem typeByName_asks (files : FileTree) (limit hops : Nat) (chain : List (String × String))
    (path name : String) :
    (typeByName files limit hops chain path name).AsksAtMost Retried hops := by
  induction hops generalizing chain path name with
  | zero => exact asksAtMost_settled _ _ _
  | succ hops ih =>
    rw [typeByName, ← Nat.zero_add (hops + 1)]
    refine (asksAtMost_settled _ _ 0).bind fun declarations => ?_
    split
    · exact asksAtMost_settled _ _ _
    · exact ((typeAt_asks _ _).map _).mono (by omega)
    · exact (referent_asks _ _ _).mono (by omega)
    · rw [Nat.add_comm]
      exact (asksAtMost_answer (retried_findModule _ _)).bind fun target => ih _ _ _

theorem exported_asks (files : FileTree) (limit : Nat) (declarations : Declarations)
    (entry : Export) :
    (declarations.exported files limit entry).AsksAtMost Retried (limit + 2) := by
  rw [Declarations.exported.eq_def]
  split
  · exact ((typeAt_asks _ _).map _).mono (by omega)
  · exact (referent_asks _ _ _).mono (by omega)
  · rw [show limit + 2 = 1 + (limit + 1) by omega]
    exact (asksAtMost_answer (retried_findModule _ _)).bind fun target =>
      typeByName_asks _ _ _ _ _ _

/-- **The inquiry for an export** asks only what is retried, and not too often. -/
theorem finding_asks (files : FileTree) (limit : Nat) (declarations : Declarations)
    (entry : Export) :
    (declarations.finding files limit entry).AsksAtMost Retried (limit + 3) := by
  change (declarations.exported files limit entry >>= _).AsksAtMost Retried (limit + 2 + 1)
  refine (exported_asks files limit declarations entry).bind fun referent => ?_
  cases referent <;> exact asksAtMost_settled _ _ 1

/-! ### Names -/

/-- The name that a finding is about. -/
def Finding.name : Finding → String
  | entry found => found.name
  | skipped name _ => name

/-- What a module of a tree exports under a name. -/
def FileTree.exported? (files : FileTree) (path name : String) : Option Export :=
  match files.read (Path.ofText path) with
  | .error _ => none
  | .ok text => (Declarations.ofSource path text.toList).exports.find? fun entry =>
      entry.name == name

/-- A name of a module leads to a name under which a module exports something that is not bound
there, if questions may have some answers. -/
inductive Leads (may : Command → Except RunError String → Prop) (files : FileTree) :
    (path name last : String) → Prop where
  | stays {path name localName exported : String} {position : Position}
      (found : files.exported? path name =
        some (.specifier ⟨localName, exported, none, position⟩)) :
      Leads may files path name name
  | goesOn {path name localName exported module target last : String} {position : Position}
      (found : files.exported? path name =
        some (.specifier ⟨localName, exported, some module, position⟩))
      (isTarget : may (.findModule module path) (.ok target))
      (rest : Leads may files target localName last) : Leads may files path name last

/-- The name to which an export of a module leads in another module, where it is not bound. -/
def Export.LeadsTo (may : Command → Except RunError String → Prop) (files : FileTree)
    (path last : String) (entry : Export) : Prop :=
  ∃ localName exported module position target,
    entry = .specifier ⟨localName, exported, some module, position⟩ ∧
      may (.findModule module path) (.ok target) ∧ Leads may files target localName last

/-- Whether a finding accounts for an export of a module: it has its name, or reports the name to
which the export leads. -/
def Accounts (may : Command → Except RunError String → Prop) (files : FileTree) (path : String)
    (entry : Export) (finding : Finding) : Prop :=
  finding.name = entry.name ∨
    ∃ last, entry.LeadsTo may files path last ∧ finding = .skipped last unboundReason

section

variable {may : Command → Except RunError String → Prop} {path name last exported : String}
  {finding : Finding}

theorem eq_of_referent (yields : (declarations.referent name exported).Yields may
    (.ok (.unbound last))) : last = exported := by
  rw [Declarations.referent] at yields
  split at yields
  · cases yields_pure_ok_iff.mp yields
    rfl
  · obtain ⟨_, _, same⟩ := yields_map_ok_iff.mp yields
    cases same

/-- **A name that is bound nowhere** is reported as it is called in the last module. -/
theorem leads_of_typeByName {hops : Nat} {chain : List (String × String)}
    (yields : (typeByName files limit hops chain path name).Yields may (.ok (.unbound last))) :
    Leads may files path name last := by
  induction hops generalizing chain path name with
  | zero => cases yields
  | succ hops ih =>
    rw [typeByName] at yields
    obtain ⟨declarations, read, yields⟩ := yields_bind_ok_iff.mp yields
    rw [FileTree.declarations, yields_ofExcept_ok_iff] at read
    obtain ⟨same, exported⟩ : declarations.path = path ∧ files.exported? path name =
        declarations.exports.find? fun entry => entry.name == name := by
      rw [FileTree.exported?]
      cases text : files.read (Path.ofText path) with
      | error error =>
        rw [text] at read
        cases read
      | ok text =>
        rw [text] at read
        cases read
        exact ⟨rfl, rfl⟩
    split at yields
    · cases yields
    · obtain ⟨_, _, same⟩ := yields_map_ok_iff.mp yields
      cases same
    · rename_i found
      cases eq_of_referent yields
      exact .stays (exported.trans found)
    · rename_i found
      obtain ⟨target, answered, yields⟩ := yields_bind_ok_iff.mp yields
      rw [yields_answer_ok_iff, same] at answered
      exact .goesOn (exported.trans found) answered (ih yields)

theorem eq_of_finding {resolved : ResolvedType} {snippet : String}
    (found : resolved.finding name snippet = .ok finding) : finding.name = name := by
  rw [ResolvedType.finding] at found
  split at found
  · cases found
    rfl
  · split at found
    · cases found
    · cases found
      rfl

/-- **An export comes to a finding that accounts for it.** -/
theorem finding_accounts {entry : Export}
    (yields : (declarations.finding files limit entry).Yields may (.ok finding)) :
    Accounts may files declarations.path entry finding := by
  obtain ⟨referent, exported, yields⟩ := yields_bind_ok_iff.mp yields
  cases referent with
  | type resolved => exact .inl (eq_of_finding (yields_settled_iff.mp yields).symm)
  | unbound name =>
    cases yields_pure_ok_iff.mp yields
    rw [Declarations.exported.eq_def] at exported
    split at exported
    · obtain ⟨_, _, same⟩ := yields_map_ok_iff.mp exported
      cases same
    · exact .inl (eq_of_referent exported)
    · rename_i localName exported' module position _
      obtain ⟨target, answered, leads⟩ := yields_bind_ok_iff.mp exported
      exact .inr ⟨name, ⟨localName, exported', module, position, target, rfl,
        yields_answer_ok_iff.mp answered, leads_of_typeByName leads⟩, rfl⟩

end

end TypeSchema
