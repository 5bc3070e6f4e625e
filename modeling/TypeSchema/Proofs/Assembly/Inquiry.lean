/-
**What an inquiry comes to.**

* `Inquiry.Yields`: the results that an inquiry may come to, if a question may have several answers;
* `Inquiry.AsksAtMost`: how many questions an inquiry asks, and which, whatever the answers;
* `yields_bind_iff`, `settle_bind`, `AsksAtMost.bind`: the laws of an inquiry that goes on with what
  another one comes to;
* `yields_eq_settle`: **if every question has only one answer**, an inquiry comes to what it settles
  to with these answers.
-/

import TypeSchema.Assembly.Inquiry

namespace TypeSchema

/-- Whether a question is asked again while it waits. -/
def Retried (command : Command) : Prop := command.isRetried = true

namespace Inquiry

variable {α β : Type}

/-- The results that an inquiry may come to, if each question has one of the answers that it may
have. -/
inductive Yields (may : Command → Except RunError String → Prop) :
    Inquiry α → Except AssemblyError α → Prop where
  | settled (result : Except AssemblyError α) : Yields may (.settled result) result
  | ask {command : Command} {next : Except RunError String → Inquiry α}
      {answer : Except RunError String} {result : Except AssemblyError α}
      (answered : may command answer) (rest : Yields may (next answer) result) :
      Yields may (.ask command next) result

/-- Whether an inquiry asks at most so many questions, all of them of a kind, whatever the
answers. -/
def AsksAtMost (kind : Command → Prop) : Inquiry α → Nat → Prop
  | .settled _, _ => True
  | .ask _ _, 0 => False
  | .ask command next, count + 1 => kind command ∧ ∀ answer, (next answer).AsksAtMost kind count

variable {may : Command → Except RunError String → Prop}
  {answers : Command → Except RunError String} {kind : Command → Prop}

/-! ### Results -/

theorem yields_settled_iff {result other : Except AssemblyError α} :
    (settled result).Yields may other ↔ other = result := by
  constructor
  · rintro ⟨⟩
    rfl
  · rintro rfl
    exact .settled other

theorem yields_ask_iff {command : Command} {next : Except RunError String → Inquiry α}
    {result : Except AssemblyError α} :
    (ask command next).Yields may result ↔
      ∃ answer, may command answer ∧ (next answer).Yields may result := by
  constructor
  · rintro ⟨⟩
    exact ⟨_, ‹_›, ‹_›⟩
  · rintro ⟨answer, answered, rest⟩
    exact .ask answered rest

/-- What comes of going on with what an inquiry comes to. -/
theorem yields_bind_iff {first : Inquiry α} {next : α → Inquiry β}
    {result : Except AssemblyError β} :
    (first >>= next).Yields may result ↔
      (∃ value, first.Yields may (.ok value) ∧ (next value).Yields may result) ∨
        ∃ error, first.Yields may (.error error) ∧ result = .error error := by
  change (first.bind next).Yields may result ↔ _
  induction first with
  | settled outcome =>
    cases outcome with
    | ok value => simp [bind, yields_settled_iff]
    | error error => simp [bind, yields_settled_iff]
  | ask command rest ih =>
    simp only [bind, yields_ask_iff, ih]
    constructor
    · rintro ⟨answer, answered, ⟨value, comes, goes⟩ | ⟨error, fails, same⟩⟩
      · exact .inl ⟨value, ⟨answer, answered, comes⟩, goes⟩
      · exact .inr ⟨error, ⟨answer, answered, fails⟩, same⟩
    · rintro (⟨value, ⟨answer, answered, comes⟩, goes⟩ | ⟨error, ⟨answer, answered, fails⟩, same⟩)
      · exact ⟨answer, answered, .inl ⟨value, comes, goes⟩⟩
      · exact ⟨answer, answered, .inr ⟨error, fails, same⟩⟩

theorem yields_bind_ok_iff {first : Inquiry α} {next : α → Inquiry β} {result : β} :
    (first >>= next).Yields may (.ok result) ↔
      ∃ value, first.Yields may (.ok value) ∧ (next value).Yields may (.ok result) := by
  rw [yields_bind_iff]
  simp

theorem yields_map_ok_iff {first : Inquiry α} {make : α → β} {result : β} :
    (make <$> first).Yields may (.ok result) ↔
      ∃ value, first.Yields may (.ok value) ∧ result = make value := by
  change (first >>= fun value => Inquiry.settled (.ok (make value))).Yields may _ ↔ _
  simp [yields_bind_ok_iff, yields_settled_iff]

theorem yields_map_iff {first : Inquiry α} {make : α → β} {result : Except AssemblyError β} :
    (make <$> first).Yields may result ↔
      ∃ outcome, first.Yields may outcome ∧ result = outcome.map make := by
  change (first >>= fun value => Inquiry.settled (.ok (make value))).Yields may _ ↔ _
  simp only [yields_bind_iff, yields_settled_iff]
  constructor
  · rintro (⟨value, comes, rfl⟩ | ⟨error, fails, rfl⟩)
    · exact ⟨.ok value, comes, rfl⟩
    · exact ⟨.error error, fails, rfl⟩
  · rintro ⟨error | value, comes, rfl⟩
    · exact .inr ⟨error, comes, rfl⟩
    · exact .inl ⟨value, comes, rfl⟩

/-- An inquiry comes to something if every question has an answer. -/
theorem exists_yields (answered : ∀ command, ∃ answer, may command answer) (inquiry : Inquiry α) :
    ∃ result, inquiry.Yields may result := by
  induction inquiry with
  | settled result => exact ⟨result, .settled result⟩
  | ask command next ih =>
    obtain ⟨answer, isAnswer⟩ := answered command
    obtain ⟨result, comes⟩ := ih answer
    exact ⟨result, .ask isAnswer comes⟩

theorem yields_pure_ok_iff {value result : α} :
    (pure value : Inquiry α).Yields may (.ok result) ↔ result = value := by
  change (settled (.ok value)).Yields may _ ↔ _
  simp [yields_settled_iff]

theorem yields_ofExcept_ok_iff {ε : Type} {wrap : ε → AssemblyError} {result : Except ε α}
    {value : α} : (ofExcept wrap result).Yields may (.ok value) ↔ result = .ok value := by
  rw [Inquiry.ofExcept, yields_settled_iff]
  cases result with
  | error failure => exact ⟨nofun, nofun⟩
  | ok other =>
    change Except.ok value = Except.ok other ↔ _
    simp [eq_comm]

theorem yields_answer_ok_iff {command : Command} {text : String} :
    (answer command).Yields may (.ok text) ↔ may command (.ok text) := by
  rw [answer, yields_ask_iff]
  simp only [yields_ofExcept_ok_iff]
  simp

/-- **If every question has only one answer**, an inquiry comes to what it settles to. -/
theorem yields_eq_settle {inquiry : Inquiry α} {count : Nat} {result : Except AssemblyError α}
    (asks : inquiry.AsksAtMost kind count)
    (only : ∀ command answer, kind command → may command answer → answer = answers command)
    (comes : inquiry.Yields may result) : result = inquiry.settle answers := by
  induction comes generalizing count with
  | settled => rfl
  | ask answered _ ih =>
    cases count with
    | zero => exact asks.elim
    | succ count =>
      cases only _ _ asks.1 answered
      exact ih (asks.2 _)

/-! ### Settling -/

theorem settle_bind (first : Inquiry α) (next : α → Inquiry β) :
    (first >>= next).settle answers =
      (first.settle answers).bind fun value => (next value).settle answers := by
  change (first.bind next).settle answers = _
  induction first with
  | settled outcome => cases outcome <;> rfl
  | ask command rest ih => exact ih (answers command)

/-! ### Numbers of questions -/

theorem AsksAtMost.mono {inquiry : Inquiry α} {few many : Nat} (order : few ≤ many)
    (asks : inquiry.AsksAtMost kind few) : inquiry.AsksAtMost kind many := by
  induction inquiry generalizing few many with
  | settled => trivial
  | ask command next ih =>
    cases few with
    | zero => exact asks.elim
    | succ few =>
      obtain ⟨more, rfl⟩ : ∃ more, many = more + 1 := ⟨many - 1, by omega⟩
      exact ⟨asks.1, fun answer => ih answer (Nat.le_of_succ_le_succ order) (asks.2 answer)⟩

theorem AsksAtMost.bind {first : Inquiry α} {next : α → Inquiry β} {few more : Nat}
    (asks : first.AsksAtMost kind few) (goesOn : ∀ value, (next value).AsksAtMost kind more) :
    (first >>= next).AsksAtMost kind (few + more) := by
  change (first.bind next).AsksAtMost kind _
  induction first generalizing few with
  | settled outcome =>
    cases outcome with
    | ok value => exact (goesOn value).mono (Nat.le_add_left _ _)
    | error => trivial
  | ask command rest ih =>
    cases few with
    | zero => exact asks.elim
    | succ few =>
      rw [Nat.succ_add]
      exact ⟨asks.1, fun answer => ih answer (asks.2 answer)⟩

theorem asksAtMost_settled (kind : Command → Prop) (result : Except AssemblyError α)
    (count : Nat) : (settled result).AsksAtMost kind count := trivial

theorem AsksAtMost.map {first : Inquiry α} {count : Nat} (asks : first.AsksAtMost kind count)
    (make : α → β) : (make <$> first).AsksAtMost kind count :=
  asks.bind fun value => asksAtMost_settled kind (.ok (make value)) 0

theorem asksAtMost_answer {command : Command} (isOfKind : kind command) :
    (answer command).AsksAtMost kind 1 := ⟨isOfKind, fun _ => trivial⟩

end Inquiry

end TypeSchema
