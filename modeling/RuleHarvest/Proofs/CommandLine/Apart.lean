/-
# Settings do not influence one another

A setting is looked up by itself. What it comes to is told by the values that
are written for it and, only if there are none, by its own variable. So two
environments that agree on the variables of the settings that a line leaves
open (`Line.AgreesOn`) cannot be told apart through the line, whatever the
other variables hold (`ofArguments_of_agreesOn`).

A line that is accepted under one environment is refused under another exactly
if the variable of a setting that it leaves open holds what the setting does
not admit (`Line.Malformed`), and then for the first such setting
(`Line.Refuses`).

Key definitions: `Line.AgreesOn`, `Line.Malformed`, `Line.Refuses`.
Key theorems: `Setting.Chosen.eq`, `ofArguments_of_agreesOn`,
`lookup_eq_error_iff`, `refuses_of_resolve`, `settings_apart`.
-/
import RuleHarvest.Proofs.CommandLine.Admitted
import RuleHarvest.Proofs.CommandLine.Chosen

namespace RuleHarvest
namespace CommandLine

variable {environment environment' : Environment} {g : Given} {o o' : Options} {l l' : Line}
  {s t : Setting} {e : UsageError}

/-! ### One setting -/

/-- No two settings share a variable. -/
theorem Setting.variableName_inj (h : s.variableName = t.variableName) : s = t := by
  have hall : ∀ s ∈ all, ∀ t ∈ all, s.variableName = t.variableName → s = t := by decide +kernel
  exact hall s (mem_all s) t (mem_all t) h

/-- A setting has one value, and its variable counts only if none is written. -/
theorem Setting.Chosen.eq {texts : List String} {found? found?' : Option String} {v v' : s.Value}
    (h : s.Chosen texts found? v) (h' : s.Chosen texts found?' v')
    (hvariable : texts = [] → found? = found?') : v = v' := by
  cases h with
  | written hread found? =>
    cases h' with
    | written hread' found?' => exact Except.ok.inj (hread.symm.trans hread')
  | fromVariable hread =>
    obtain rfl := hvariable rfl
    cases h' with
    | fromVariable hread' => exact Except.ok.inj (hread.symm.trans hread')
  | byDefault =>
    obtain rfl := hvariable rfl
    cases h' with
    | byDefault => rfl

/-- A setting is given a value exactly if one is written. -/
theorem Setting.Settles.eq_none_iff {texts : List String} {v? : Option s.Value}
    (h : s.Settles none texts v?) : v? = none ↔ texts = [] := by
  cases h with
  | kept => simp
  | read hread => simp

theorem lookup_congr
    (h : g.value? s = none → environment s.variableName = environment' s.variableName) :
    g.lookup environment s = g.lookup environment' s := by
  cases hvalue : g.value? s with
  | some v => rw [lookup_of_given hvalue, lookup_of_given hvalue]
  | none =>
    unfold Given.lookup
    rw [hvalue, h hvalue]

/-- **A look-up fails only at a variable**, and only if no value is written. -/
theorem lookup_eq_error_iff : g.lookup environment s = .error e ↔
    g.value? s = none ∧ ∃ text fault, environment s.variableName = some text ∧
      s.read text = .error fault ∧ e = .ofFault s text fault := by
  unfold Given.lookup
  cases hvalue : g.value? s with
  | some v => simp
  | none =>
    cases hvariable : environment s.variableName with
    | none => simp
    | some text =>
      cases hread : s.read text with
      | ok v => simp [hread, Except.mapError]
      | error fault => simp [hread, Except.mapError, eq_comm]

/-! ### Two environments -/

/-- Two environments agree on the variables that a line leaves open. -/
def Line.AgreesOn (l : Line) (environment environment' : Environment) : Prop :=
  ∀ s : Setting, l.values s = [] → environment s.variableName = environment' s.variableName

/-- **Nothing else in the environment counts.** -/
theorem ofArguments_of_agreesOn (h : l.AgreesOn environment environment') :
    Options.ofArguments environment l.arguments = Options.ofArguments environment' l.arguments := by
  unfold Options.ofArguments
  -- the arguments are read without the environment, and it is asked only afterwards
  cases hgiven : Given.ofArguments l.arguments with
  | error stop => rfl
  | ok g =>
    have hgives := (ofArguments_arguments l).1 hgiven
    have hlookup : ∀ s, g.lookup environment s = g.lookup environment' s :=
      fun s => lookup_congr fun hvalue => h s ((hgives.value s).eq_none_iff.1 hvalue)
    have hresolve : g.resolve environment = g.resolve environment' := by
      unfold Given.resolve
      simp only [hlookup]
    show (g.resolve environment).mapError Stop.refused = (g.resolve environment').mapError Stop.refused
    rw [hresolve]

/-! ### Variables that are refused -/

/-- The variable of a setting that a line leaves open holds what the setting does
not admit. -/
def Line.Malformed (l : Line) (environment : Environment) (s : Setting) : Prop :=
  l.values s = [] ∧ ∃ text, environment s.variableName = some text ∧ ∀ v, ¬ s.Admits text v

/-- The refusal for the first setting whose variable is malformed. -/
inductive Line.Refuses (l : Line) (environment : Environment) : UsageError → Prop
  | first {before after : List Setting} {s : Setting} {text : String} {fault : Setting.Fault}
    (horder : Setting.all = before ++ s :: after)
    (hbefore : ∀ t ∈ before, ¬ l.Malformed environment t) (hs : l.Malformed environment s)
    (hvariable : environment s.variableName = some text) (hfault : s.read text = .error fault) :
    Refuses l environment (.ofFault s text fault)

theorem Setting.forall_not_admits_iff {text : String} :
    (∀ v, ¬ s.Admits text v) ↔ ∃ fault, s.read text = .error fault := by
  simp only [← read_eq_ok_iff]
  cases s.read text <;> simp

/-- **A look-up fails exactly at a malformed variable.** -/
theorem Line.Gives.malformed_iff (h : l.Gives g) :
    l.Malformed environment s ↔ ∃ e, g.lookup environment s = .error e := by
  simp only [lookup_eq_error_iff, (h.value s).eq_none_iff, Line.Malformed,
    Setting.forall_not_admits_iff]
  constructor
  · rintro ⟨hvalues, text, hvariable, fault, hfault⟩
    exact ⟨_, hvalues, text, fault, hvariable, hfault, rfl⟩
  · rintro ⟨_, hvalues, text, fault, hvariable, hfault, -⟩
    exact ⟨hvalues, text, hvariable, fault, hfault⟩

theorem bind_eq_error_iff {ε α β : Type} {x : Except ε α} {f : α → Except ε β} {e : ε} :
    x >>= f = .error e ↔ x = .error e ∨ ∃ a, x = .ok a ∧ f a = .error e := by
  cases x with
  | error e => simp [bind, Except.bind]
  | ok a => simp [bind, Except.bind]

/-- Why the look-up of a setting fails, if it does. -/
def Given.fault? (g : Given) (environment : Environment) (s : Setting) : Option UsageError :=
  match g.lookup environment s with
  | .ok _ => none
  | .error e => some e

theorem fault?_eq_some_iff : g.fault? environment s = some e ↔ g.lookup environment s = .error e := by
  unfold Given.fault?
  cases g.lookup environment s <;> simp

theorem fault?_eq_none_iff :
    g.fault? environment s = none ↔ ¬ ∃ e, g.lookup environment s = .error e := by
  unfold Given.fault?
  cases g.lookup environment s <;> simp

/-- One look-up, and those behind it. -/
theorem findSome?_fault?_of_bind {f : s.Value → Except UsageError Options} {rest : List Setting}
    (h : g.lookup environment s >>= f = .error e)
    (hrest : ∀ v, f v = .error e → rest.findSome? (g.fault? environment) = some e) :
    (s :: rest).findSome? (g.fault? environment) = some e := by
  rw [List.findSome?_cons]
  obtain hs | ⟨v, hs, hf⟩ := bind_eq_error_iff.1 h
  · rw [fault?_eq_some_iff.2 hs]
  · rw [fault?_eq_none_iff.2 (by simp [hs]), hrest v hf]

/-- The first fault counts. -/
theorem findSome?_fault?_of_resolve (h : g.resolve environment = .error e) :
    Setting.all.findSome? (g.fault? environment) = some e := by
  unfold Given.resolve at h
  -- one look-up for each setting, in the order of `Setting.all`
  refine findSome?_fault?_of_bind h fun _ h => ?_
  refine findSome?_fault?_of_bind h fun _ h => ?_
  refine findSome?_fault?_of_bind h fun _ h => ?_
  refine findSome?_fault?_of_bind h fun _ h => ?_
  refine findSome?_fault?_of_bind h fun _ h => ?_
  refine findSome?_fault?_of_bind h fun _ h => ?_
  refine findSome?_fault?_of_bind h fun _ h => ?_
  refine findSome?_fault?_of_bind h fun _ h => ?_
  cases h

/-- **Look-ups that fail refuse the first setting whose variable is malformed.** -/
theorem refuses_of_resolve (hgives : l.Gives g) (h : g.resolve environment = .error e) :
    l.Refuses environment e := by
  obtain ⟨before, s, after, horder, hs, hbefore⟩ :=
    List.findSome?_eq_some_iff.1 (findSome?_fault?_of_resolve h)
  have hlookup := fault?_eq_some_iff.1 hs
  obtain ⟨-, text, fault, hvariable, hfault, rfl⟩ := lookup_eq_error_iff.1 hlookup
  refine .first horder (fun t ht => ?_) (hgives.malformed_iff.2 ⟨_, hlookup⟩) hvariable hfault
  rw [hgives.malformed_iff]
  exact fault?_eq_none_iff.1 (hbefore t ht)

theorem not_malformed_of_ok (h : Options.ofArguments environment l.arguments = .ok o) (s : Setting) :
    ¬ l.Malformed environment s := by
  obtain ⟨g, hgives, hresolve⟩ := (ofArguments_eq_ok l).1 h
  rw [hgives.malformed_iff, (resolve_eq_ok_iff.1 hresolve).2.2.2 s]
  rintro ⟨e, he⟩
  cases he

/-- **What another environment makes of a line that is accepted.** -/
theorem ofArguments_cases (h : Options.ofArguments environment l.arguments = .ok o)
    (environment' : Environment) :
    (∃ o', Options.ofArguments environment' l.arguments = .ok o') ∨
      ∃ e, Options.ofArguments environment' l.arguments = .error (.refused e) ∧
        l.Refuses environment' e := by
  obtain ⟨g, hgives, -⟩ := (ofArguments_eq_ok l).1 h
  have hread : Options.ofArguments environment' l.arguments =
      (g.resolve environment').mapError .refused := by
    unfold Options.ofArguments
    rw [(ofArguments_arguments l).2 hgives]
    rfl
  rw [hread]
  cases hresolve : g.resolve environment' with
  | ok o' => exact .inl ⟨o', rfl⟩
  | error e => exact .inr ⟨e, rfl, refuses_of_resolve hgives hresolve⟩

/-- **A line that is accepted is refused exactly at a malformed variable.** -/
theorem exists_refused_iff (h : Options.ofArguments environment l.arguments = .ok o)
    (environment' : Environment) :
    (∃ e, Options.ofArguments environment' l.arguments = .error (.refused e)) ↔
      ∃ s, l.Malformed environment' s := by
  constructor
  · rintro ⟨e, he⟩
    obtain ⟨o', ho'⟩ | ⟨_, -, hrefuses⟩ := ofArguments_cases h environment'
    · rw [ho'] at he
      cases he
    · cases hrefuses with
      | first horder hbefore hs => exact ⟨_, hs⟩
  · rintro ⟨s, hs⟩
    obtain ⟨o', ho'⟩ | ⟨e, he, -⟩ := ofArguments_cases h environment'
    · exact absurd hs (not_malformed_of_ok ho' s)
    · exact ⟨e, he⟩

/-- **Settings do not influence one another.** The value of a setting is the one
that is written for it; if none is, the one in its variable; if that is not set,
the default. All lines and environments that agree on it so far agree on its
value, and environments that agree on the variables of the settings that a line
leaves open come to the same, be it a refusal. A line that one environment
accepts is refused in another exactly if one of those variables is malformed:
the refusal is then for the first of them. -/
theorem settings_apart {environment : Environment} {arguments : List String} {o : Options}
    (h : Options.ofArguments environment arguments = .ok o) :
    (∀ s t : Setting, s.variableName = t.variableName → s = t) ∧
    (∀ (s : Setting) (text : String) (v : s.Value), s.read text = .ok v ↔ s.Admits text v) ∧
    (∃ l : Line, l.arguments = arguments) ∧ ∀ l : Line, l.arguments = arguments →
      (∀ s : Setting, s.Chosen (l.values s) (environment s.variableName) (o.value s)) ∧
      (∀ (l' : Line) (environment' : Environment) (o' : Options),
        Options.ofArguments environment' l'.arguments = .ok o' →
        ∀ s : Setting, l'.values s = l.values s →
          (l.values s = [] → environment' s.variableName = environment s.variableName) →
          o'.value s = o.value s) ∧
      (∀ environment₁ environment₂ : Environment, l.AgreesOn environment₁ environment₂ →
        Options.ofArguments environment₁ arguments = Options.ofArguments environment₂ arguments) ∧
      ∀ environment' : Environment,
        ((∃ e, Options.ofArguments environment' arguments = .error (.refused e)) ↔
          ∃ s, l.Malformed environment' s) ∧
        ((∃ o', Options.ofArguments environment' arguments = .ok o') ∨
          ∃ e, Options.ofArguments environment' arguments = .error (.refused e) ∧
            l.Refuses environment' e) := by
  refine ⟨fun _ _ => Setting.variableName_inj, Setting.read_eq_ok_iff, exists_line_of_options h, ?_⟩
  rintro l rfl
  have haccepted := (ofArguments_eq_ok_iff l).1 h
  refine ⟨haccepted.value, fun l' environment' o' h' s hvalues hvariable => ?_,
    fun _ _ hagrees => ofArguments_of_agreesOn hagrees,
    fun environment' => ⟨exists_refused_iff h environment', ofArguments_cases h environment'⟩⟩
  have hchosen := ((ofArguments_eq_ok_iff l').1 h').value s
  rw [hvalues] at hchosen
  exact hchosen.eq (haccepted.value s) hvariable

theorem settings_apart_malformed :
    let environment : Environment := fun name =>
      if name = "FEDRULES_CONCURRENCY" then some "many"
      else if name = "FEDRULES_FILENAME" then some "rules" else none
    let environment' : Environment := fun name =>
      if name = "FEDRULES_MAX_RETRIES" then some "-1" else environment name
    (∃ o, Options.ofArguments environment ["--concurrency=2"] = .ok o ∧
      o.value .concurrency = 2 ∧ o.value .filename = "rules" ∧ o.value .timeoutSecs = 30) ∧
    ∃ e, Options.ofArguments environment' ["--concurrency=2"] = .error (.refused e) := by
  intro environment environment'
  let l : Line := ⟨[.equals (.setting .concurrency) "2"], none⟩
  obtain ⟨o, ho⟩ : ∃ o, Options.ofArguments environment ["--concurrency=2"] = .ok o :=
    exists_eq_ok (by decide +kernel)
  obtain ⟨-, -, -, hline⟩ := settings_apart ho
  obtain ⟨hchosen, -, -, hrefused⟩ := hline l (by decide +kernel)
  refine ⟨⟨o, ho, ?_, ?_, ?_⟩, ?_⟩
  · have hconcurrency : Setting.concurrency.Chosen ["2"] _ (o.value .concurrency) :=
      hchosen .concurrency
    exact hconcurrency.eq (.written rfl none) (by simp)
  · have hfilename : Setting.filename.Chosen [] _ (o.value .filename) := hchosen .filename
    exact hfilename.eq (.fromVariable rfl) fun _ => by decide +kernel
  · have htimeout : Setting.timeoutSecs.Chosen [] _ (o.value .timeoutSecs) := hchosen .timeoutSecs
    exact htimeout.eq .byDefault fun _ => by decide +kernel
  · have hvariable : environment' Setting.maxRetries.variableName = some "-1" := by decide +kernel
    refine (hrefused environment').1.2 ⟨.maxRetries, rfl, "-1", hvariable, ?_⟩
    exact Setting.forall_not_admits_iff.2 ⟨_, rfl⟩

end CommandLine
end RuleHarvest
