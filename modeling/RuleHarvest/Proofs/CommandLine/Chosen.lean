/-
# Where options come from

A command line and an environment are accepted exactly when the items of the
command line add up and each setting, looked up by itself, has a value
(`ofArguments_eq_ok_iff`): the one that the command line gives; if it gives
none, the one in the variable of the setting; if that is not set, the default.
The variable of a setting on the command line is not looked at.

Key definitions: `Setting.Chosen`, `Line.Accepted`.
Key theorems: `resolve_eq_ok_iff`, `ofArguments_eq_ok_iff`,
`exists_line_of_options`, `ofArguments_of_perm`.
-/
import RuleHarvest.CommandLine.Options
import RuleHarvest.Proofs.CommandLine.Reading

namespace RuleHarvest
namespace CommandLine

variable {environment : Environment} {g : Given} {o : Options} {l : Line}

/-! ### Looking settings up -/

/-- **Each setting is looked up by itself.** -/
theorem resolve_eq_ok_iff : g.resolve environment = .ok o ↔
    o.urls = g.urls ∧ o.ruleIds = g.ruleIds ∧ o.verbose = g.verbose ∧
      ∀ s, g.lookup environment s = .ok (o.value s) := by
  constructor
  · intro h
    obtain ⟨_, hinput, h⟩ := bind_eq_ok_iff.1 h
    obtain ⟨_, hdataPath, h⟩ := bind_eq_ok_iff.1 h
    obtain ⟨_, hfilename, h⟩ := bind_eq_ok_iff.1 h
    obtain ⟨_, hconcurrency, h⟩ := bind_eq_ok_iff.1 h
    obtain ⟨_, htimeoutSecs, h⟩ := bind_eq_ok_iff.1 h
    obtain ⟨_, hmaxRetries, h⟩ := bind_eq_ok_iff.1 h
    obtain ⟨_, hretryBackoffMs, h⟩ := bind_eq_ok_iff.1 h
    obtain ⟨_, huserAgent, h⟩ := bind_eq_ok_iff.1 h
    obtain rfl := Except.ok.inj h
    refine ⟨rfl, rfl, rfl, fun s => ?_⟩
    cases s with
    | input => exact hinput
    | dataPath => exact hdataPath
    | filename => exact hfilename
    | concurrency => exact hconcurrency
    | timeoutSecs => exact htimeoutSecs
    | maxRetries => exact hmaxRetries
    | retryBackoffMs => exact hretryBackoffMs
    | userAgent => exact huserAgent
  · rintro ⟨hurls, hruleIds, hverbose, hvalue⟩
    obtain ⟨urls, ruleIds, value, verbose⟩ := o
    subst hurls hruleIds hverbose
    unfold Given.resolve
    simp only [hvalue]
    refine congrArg (fun value => (.ok ⟨g.urls, g.ruleIds, value, g.verbose⟩ : Except UsageError Options))
      (funext fun s => ?_)
    cases s <;> rfl

theorem lookup_of_given {s : Setting} {v : s.Value} (h : g.value? s = some v) :
    g.lookup environment s = .ok v := by
  unfold Given.lookup
  rw [h]

theorem lookup_of_variable {s : Setting} {text : String} {v : s.Value} (h : g.value? s = none)
    (hvariable : environment s.variableName = some text) :
    g.lookup environment s = .ok v ↔ s.read text = .ok v := by
  have hlookup : g.lookup environment s = (s.read text).mapError (.ofFault s text) := by
    unfold Given.lookup
    rw [h, hvariable]
  rw [hlookup]
  cases s.read text <;> simp [Except.mapError]

theorem lookup_of_nothing {s : Setting} (h : g.value? s = none)
    (hvariable : environment s.variableName = none) :
    g.lookup environment s = .ok s.default := by
  unfold Given.lookup
  rw [h, hvariable]

/-- The values that are written for a setting, its variable, and the value that
it has. -/
inductive Setting.Chosen (s : Setting) : List String → Option String → s.Value → Prop
  | written {text : String} {v : s.Value} (h : s.read text = .ok v) (found? : Option String) :
    Chosen s [text] found? v
  | fromVariable {text : String} {v : s.Value} (h : s.read text = .ok v) : Chosen s [] (some text) v
  | byDefault : Chosen s [] none s.default

namespace Setting.Chosen

variable {s : Setting} {texts : List String} {v : s.Value}

theorem of_lookup (hsettles : s.Settles none texts (g.value? s))
    (hlookup : g.lookup environment s = .ok v) :
    s.Chosen texts (environment s.variableName) v := by
  generalize hgiven : g.value? s = given at hsettles
  cases hsettles with
  | kept =>
    cases hvariable : environment s.variableName with
    | none =>
      obtain rfl := Except.ok.inj ((lookup_of_nothing hgiven hvariable).symm.trans hlookup)
      exact .byDefault
    | some text => exact .fromVariable ((lookup_of_variable hgiven hvariable).1 hlookup)
  | read hread =>
    obtain rfl := Except.ok.inj ((lookup_of_given hgiven).symm.trans hlookup)
    exact .written hread _

/-- What the command line gives a setting that has a value. -/
theorem settles {found? : Option String} (h : s.Chosen texts found? v) :
    s.Settles none texts (if texts = [] then none else some v) := by
  cases h with
  | written hread found? => exact .read hread
  | fromVariable hread => exact .kept none
  | byDefault => exact .kept none

theorem lookup (h : s.Chosen texts (environment s.variableName) v)
    (hgiven : g.value? s = if texts = [] then none else some v) :
    g.lookup environment s = .ok v := by
  generalize hvariable : environment s.variableName = found? at h
  cases h with
  | written hread found? => exact lookup_of_given hgiven
  | fromVariable hread => exact (lookup_of_variable hgiven hvariable).2 hread
  | byDefault => exact lookup_of_nothing hgiven hvariable

end Setting.Chosen

/-! ### Command lines that are accepted -/

/-- What a line and an environment come to. -/
structure Line.Accepted (l : Line) (environment : Environment) (o : Options) : Prop where
  urls : o.urls = l.addresses
  ruleIds : o.ruleIds = l.numbers
  value : ∀ s : Setting, s.Chosen (l.values s) (environment s.variableName) (o.value s)
  verbose : Raises false (l.items.filterMap Item.flag?) o.verbose

theorem ofArguments_eq_ok (l : Line) : Options.ofArguments environment l.arguments = .ok o ↔
    ∃ g, l.Gives g ∧ g.resolve environment = .ok o := by
  unfold Options.ofArguments
  rw [bind_eq_ok_iff]
  simp only [ofArguments_arguments]
  refine exists_congr fun g => and_congr_right fun _ => ?_
  cases g.resolve environment <;> simp [Except.mapError]

/-- **Which command lines are accepted**, and what they then ask for. -/
theorem ofArguments_eq_ok_iff (l : Line) :
    Options.ofArguments environment l.arguments = .ok o ↔ l.Accepted environment o := by
  rw [ofArguments_eq_ok]
  constructor
  · rintro ⟨g, hgives, hresolve⟩
    obtain ⟨hurls, hruleIds, hverbose, hlookup⟩ := resolve_eq_ok_iff.1 hresolve
    refine ⟨hurls.trans hgives.urls, hruleIds.trans hgives.ruleIds, fun s => ?_, ?_⟩
    · exact .of_lookup (hgives.value s) (hlookup s)
    · rw [hverbose]
      exact hgives.verbose
  · intro h
    refine ⟨⟨o.urls, o.ruleIds, fun s => if l.values s = [] then none else some (o.value s),
      o.verbose⟩, ⟨h.urls, h.ruleIds, fun s => (h.value s).settles, h.verbose⟩, ?_⟩
    exact resolve_eq_ok_iff.2 ⟨rfl, rfl, rfl, fun s => (h.value s).lookup rfl⟩

/-- A command line that is accepted is spelled in pieces. -/
theorem exists_line_of_options {arguments : List String}
    (h : Options.ofArguments environment arguments = .ok o) : ∃ l : Line, l.arguments = arguments := by
  obtain ⟨g, hgiven, -⟩ := bind_eq_ok_iff.1 h
  exact exists_line arguments {} hgiven

/-- **The order of the pieces does not matter**, as long as the addresses keep
theirs and the numbers of rules keep theirs. -/
theorem ofArguments_of_perm {l' : Line} (h : Options.ofArguments environment l.arguments = .ok o)
    (hpieces : l'.pieces.Perm l.pieces) (haddresses : l'.addresses = l.addresses)
    (hnumbers : l'.numbers = l.numbers) : Options.ofArguments environment l'.arguments = .ok o := by
  obtain ⟨g, hgives, hresolve⟩ := (ofArguments_eq_ok l).1 h
  exact (ofArguments_eq_ok l').2 ⟨g, hgives.of_perm hpieces haddresses hnumbers, hresolve⟩

end CommandLine
end RuleHarvest
