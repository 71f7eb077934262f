/-
# What a command line says

Apart from its spelling a command line is a row of items: addresses, parameters
with their values, and flags. They are taken in one after the other, and what
comes of them can be told without the order of taking them in (`Adds`): the
addresses in their order, the numbers of rules in theirs, for each setting the
one value that it has, and whether the log is to be verbose. That they are
taken in at all means that each setting has at most one value, one that can be
read, that the log is made verbose at most once and that no help is asked for.

So values and flags may trade places (`Setting.Settles.of_perm`,
`Raises.of_perm`).

Key definitions: `Item`, `Given.add`, `Given.addAll`, `Setting.Settles`,
`Raises`, `Adds`.
Key theorems: `Adds.cons_iff`, `addAll_eq_ok_iff`, `Setting.Settles.of_perm`.
-/
import RuleHarvest.CommandLine.Given

namespace RuleHarvest
namespace CommandLine

/-- An action that goes on from another one succeeds if both do. -/
theorem bind_eq_ok_iff {ε α β : Type} {x : Except ε α} {f : α → Except ε β} {b : β} :
    x >>= f = .ok b ↔ ∃ a, x = .ok a ∧ f a = .ok b := by
  cases x with
  | error e => simp [bind, Except.bind]
  | ok a => simp [bind, Except.bind]

/-- What holds of the result holds of a result of the second action. -/
theorem exists_bind_eq_ok_iff {ε α β : Type} {x : Except ε α} {f : α → Except ε β} {P : β → Prop} :
    (∃ b, x >>= f = .ok b ∧ P b) ↔ ∃ a, x = .ok a ∧ ∃ b, f a = .ok b ∧ P b := by
  cases x with
  | error e => simp [bind, Except.bind]
  | ok a => simp [bind, Except.bind]

theorem exists_eq_ok {ε α : Type} {x : Except ε α} (h : x.toBool = true) : ∃ a, x = .ok a := by
  cases x with
  | error e => cases h
  | ok a => exact ⟨a, rfl⟩

/-- Something that a command line says. -/
inductive Item where
  | address (text : String)
  | parameter (p : Parameter) (text : String)
  | flag (f : Flag)

namespace Item

def address? : Item → Option String
  | address text => some text
  | _ => none

/-- The number of a rule. -/
def number? : Item → Option String
  | parameter .ruleId text => some text
  | _ => none

/-- The value of a setting, as it is written. -/
def value? (s : Setting) : Item → Option String
  | parameter (.setting t) text => if t = s then some text else none
  | _ => none

def flag? : Item → Option Flag
  | flag f => some f
  | _ => none

end Item

namespace Given

/-- Takes in an item. -/
def add (g : Given) : Item → Except Stop Given
  | .address text => .ok { g with urls := g.urls ++ [text] }
  | .parameter p text => g.take p text
  | .flag f => g.raise f

/-- Takes in items, one after the other. -/
def addAll (g : Given) (items : List Item) : Except Stop Given := items.foldlM add g

theorem addAll_nil (g : Given) : g.addAll [] = .ok g := rfl

theorem addAll_cons (g : Given) (i : Item) (items : List Item) :
    g.addAll (i :: items) = g.add i >>= fun g => g.addAll items := List.foldlM_cons

theorem addAll_singleton {g g' : Given} (i : Item) : g.addAll [i] = .ok g' ↔ g.add i = .ok g' := by
  rw [addAll_cons, bind_eq_ok_iff]
  simp [addAll_nil]

theorem addAll_append (g : Given) (items more : List Item) :
    g.addAll (items ++ more) = g.addAll items >>= fun g => g.addAll more := List.foldlM_append

@[ext] theorem ext {g g' : Given} (hurls : g.urls = g'.urls) (hruleIds : g.ruleIds = g'.ruleIds)
    (hvalue : ∀ s, g.value? s = g'.value? s) (hverbose : g.verbose = g'.verbose) : g = g' := by
  obtain ⟨urls, ruleIds, value?, verbose⟩ := g
  obtain ⟨urls', ruleIds', value?', verbose'⟩ := g'
  obtain rfl : value? = value?' := funext hvalue
  subst hurls hruleIds hverbose
  rfl

theorem value?_set_self (g : Given) (s : Setting) (v : s.Value) :
    (g.set s v).value? s = some v := by
  simp [set]

theorem value?_set_of_ne (g : Given) {s t : Setting} (h : s ≠ t) (v : s.Value) :
    (g.set s v).value? t = g.value? t := by
  simp [set, h]

theorem take_ruleId (g : Given) (text : String) :
    g.take .ruleId text = .ok { g with ruleIds := g.ruleIds ++ [text] } := rfl

theorem take_setting {g g' : Given} {s : Setting} {text : String} :
    g.take (.setting s) text = .ok g' ↔
      g.value? s = none ∧ ∃ v, s.read text = .ok v ∧ g.set s v = g' := by
  unfold take
  cases hvalue : g.value? s with
  | some v => simp [hvalue]
  | none => cases hread : s.read text <;> simp [hvalue, hread]

theorem raise_eq_ok_iff {g g' : Given} {f : Flag} :
    g.raise f = .ok g' ↔ f = .verbose ∧ g.verbose = false ∧ { g with verbose := true } = g' := by
  cases f with
  | verbose => cases hverbose : g.verbose <;> simp [raise, hverbose]
  | help => simp [raise]
  | version => simp [raise]

end Given

/-! ### What items come to -/

/-- What a setting had, the values that are written for it, and what it then
has. -/
inductive Setting.Settles (s : Setting) : Option s.Value → List String → Option s.Value → Prop
  | kept (v? : Option s.Value) : Settles s v? [] v?
  | read {text : String} {v : s.Value} (h : s.read text = .ok v) : Settles s none [text] (some v)

/-- Whether the log was verbose, the flags, and whether it then is. -/
inductive Raises : Bool → List Flag → Bool → Prop
  | kept (b : Bool) : Raises b [] b
  | raised : Raises false [.verbose] true

/-- What items add to what is given already. -/
structure Adds (g : Given) (items : List Item) (g' : Given) : Prop where
  urls : g'.urls = g.urls ++ items.filterMap Item.address?
  ruleIds : g'.ruleIds = g.ruleIds ++ items.filterMap Item.number?
  value : ∀ s : Setting, s.Settles (g.value? s) (items.filterMap (Item.value? s)) (g'.value? s)
  verbose : Raises g.verbose (items.filterMap Item.flag?) g'.verbose

namespace Adds

variable {g g' : Given} {items : List Item}

theorem nil_iff : Adds g [] g' ↔ g = g' := by
  constructor
  · rintro ⟨hurls, hruleIds, hvalue, hverbose⟩
    refine Given.ext (by simpa using hurls.symm) (by simpa using hruleIds.symm) (fun s => ?_) ?_
    · have hs : s.Settles (g.value? s) [] (g'.value? s) := hvalue s
      generalize g.value? s = before at hs ⊢
      generalize g'.value? s = after at hs ⊢
      cases hs
      rfl
    · have hflag : Raises g.verbose [] g'.verbose := hverbose
      generalize g.verbose = before at hflag ⊢
      generalize g'.verbose = after at hflag ⊢
      cases hflag
      rfl
  · rintro rfl
    exact ⟨(List.append_nil _).symm, (List.append_nil _).symm, fun s => .kept _, .kept _⟩

theorem address_cons_iff {text : String} :
    Adds g (.address text :: items) g' ↔ Adds { g with urls := g.urls ++ [text] } items g' := by
  constructor
  · rintro ⟨hurls, hruleIds, hvalue, hverbose⟩
    exact ⟨by simpa [Item.address?] using hurls, hruleIds, hvalue, hverbose⟩
  · rintro ⟨hurls, hruleIds, hvalue, hverbose⟩
    exact ⟨by simpa [Item.address?] using hurls, hruleIds, hvalue, hverbose⟩

theorem ruleId_cons_iff {text : String} :
    Adds g (.parameter .ruleId text :: items) g' ↔
      Adds { g with ruleIds := g.ruleIds ++ [text] } items g' := by
  constructor
  · rintro ⟨hurls, hruleIds, hvalue, hverbose⟩
    exact ⟨hurls, by simpa [Item.number?] using hruleIds, hvalue, hverbose⟩
  · rintro ⟨hurls, hruleIds, hvalue, hverbose⟩
    exact ⟨hurls, by simpa [Item.number?] using hruleIds, hvalue, hverbose⟩

/-- A setting takes one value, and only if it has none. -/
theorem settles_cons_iff {s : Setting} {before after : Option s.Value} {text : String}
    {texts : List String} : s.Settles before (text :: texts) after ↔
      before = none ∧ ∃ v, s.read text = .ok v ∧ s.Settles (some v) texts after := by
  constructor
  · intro h
    cases h with
    | @read _ v hread => exact ⟨rfl, v, hread, .kept _⟩
  · rintro ⟨rfl, v, hread, hrest⟩
    cases hrest
    exact .read hread

theorem setting_cons_iff {s : Setting} {text : String} :
    Adds g (.parameter (.setting s) text :: items) g' ↔
      g.value? s = none ∧ ∃ v, s.read text = .ok v ∧ Adds (g.set s v) items g' := by
  have hself : (Item.parameter (.setting s) text :: items).filterMap (Item.value? s) =
      text :: items.filterMap (Item.value? s) := by
    simp [Item.value?]
  have hother : ∀ t, s ≠ t → (Item.parameter (.setting s) text :: items).filterMap (Item.value? t) =
      items.filterMap (Item.value? t) := by
    intro t ht
    simp [Item.value?, ht]
  constructor
  · rintro ⟨hurls, hruleIds, hvalue, hverbose⟩
    have hs := hvalue s
    rw [hself, settles_cons_iff] at hs
    obtain ⟨hnone, v, hread, hrest⟩ := hs
    refine ⟨hnone, v, hread, hurls, hruleIds, fun t => ?_, hverbose⟩
    by_cases ht : s = t
    · subst ht
      rwa [Given.value?_set_self]
    · have hvt := hvalue t
      rwa [hother t ht, ← Given.value?_set_of_ne g ht v] at hvt
  · rintro ⟨hnone, v, hread, hurls, hruleIds, hvalue, hverbose⟩
    refine ⟨hurls, hruleIds, fun t => ?_, hverbose⟩
    have hvt := hvalue t
    by_cases ht : s = t
    · subst ht
      rw [Given.value?_set_self] at hvt
      rw [hself, settles_cons_iff]
      exact ⟨hnone, v, hread, hvt⟩
    · rwa [hother t ht, ← Given.value?_set_of_ne g ht v]

theorem flag_cons_iff {f : Flag} : Adds g (.flag f :: items) g' ↔
    f = .verbose ∧ g.verbose = false ∧ Adds { g with verbose := true } items g' := by
  have hflags : (Item.flag f :: items).filterMap Item.flag? = f :: items.filterMap Item.flag? := rfl
  constructor
  · rintro ⟨hurls, hruleIds, hvalue, hverbose⟩
    rw [hflags] at hverbose
    generalize hbefore : g.verbose = before at hverbose
    generalize hafter : g'.verbose = after at hverbose
    generalize hrest : items.filterMap Item.flag? = rest at hverbose
    cases hverbose
    refine ⟨rfl, rfl, hurls, hruleIds, hvalue, ?_⟩
    rw [hrest, hafter]
    exact .kept true
  · rintro ⟨rfl, hbefore, hurls, hruleIds, hvalue, hverbose⟩
    refine ⟨hurls, hruleIds, hvalue, ?_⟩
    rw [hflags, hbefore]
    generalize g'.verbose = after at hverbose ⊢
    generalize items.filterMap Item.flag? = rest at hverbose ⊢
    cases hverbose
    exact .raised

/-- One item, and then others. -/
theorem cons_iff {i : Item} :
    Adds g (i :: items) g' ↔ ∃ g₁, g.add i = .ok g₁ ∧ Adds g₁ items g' := by
  cases i with
  | address text => simp [Given.add, address_cons_iff]
  | parameter p text =>
    cases p with
    | ruleId => simp [Given.add, Given.take_ruleId, ruleId_cons_iff]
    | setting s =>
      rw [setting_cons_iff]
      simp only [Given.add, Given.take_setting]
      constructor
      · rintro ⟨hnone, v, hread, hadds⟩
        exact ⟨g.set s v, ⟨hnone, v, hread, rfl⟩, hadds⟩
      · rintro ⟨_, ⟨hnone, v, hread, rfl⟩, hadds⟩
        exact ⟨hnone, v, hread, hadds⟩
  | flag f =>
    rw [flag_cons_iff]
    simp only [Given.add, Given.raise_eq_ok_iff]
    constructor
    · rintro ⟨hf, hverbose, hadds⟩
      exact ⟨{ g with verbose := true }, ⟨hf, hverbose, rfl⟩, hadds⟩
    · rintro ⟨_, ⟨hf, hverbose, rfl⟩, hadds⟩
      exact ⟨hf, hverbose, hadds⟩

end Adds

/-- **What comes of items.** -/
theorem addAll_eq_ok_iff {items : List Item} :
    ∀ {g g' : Given}, g.addAll items = .ok g' ↔ Adds g items g' := by
  induction items with
  | nil =>
    intro g g'
    rw [Adds.nil_iff, Given.addAll_nil, Except.ok.injEq]
  | cons i items ih =>
    intro g g'
    rw [Given.addAll_cons, bind_eq_ok_iff, Adds.cons_iff]
    simp only [ih]

/-! ### The order of items -/

/-- At most one value stays as it is when values trade places. -/
theorem Setting.Settles.of_perm {s : Setting} {before after : Option s.Value}
    {texts texts' : List String} (h : s.Settles before texts after) (hperm : texts'.Perm texts) :
    s.Settles before texts' after := by
  cases h with
  | kept =>
    obtain rfl := hperm.eq_nil
    exact .kept _
  | read hread =>
    obtain rfl := List.perm_singleton.1 hperm
    exact .read hread

theorem Raises.of_perm {before after : Bool} {flags flags' : List Flag}
    (h : Raises before flags after) (hperm : flags'.Perm flags) : Raises before flags' after := by
  cases h with
  | kept =>
    obtain rfl := hperm.eq_nil
    exact .kept _
  | raised =>
    obtain rfl := List.perm_singleton.1 hperm
    exact .raised

end CommandLine
end RuleHarvest
