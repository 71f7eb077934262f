/-
# Command lines are read as they are spelled

Reading a piece takes in the items that it says (`scan_piece`), whatever comes
behind it. A value in an argument of its own is not taken in until the argument
behind it is known, which only matters for what a refusal says: if the reading
succeeds, the value may as well have been taken in at once (`scan_settle`).

Conversely a reading that succeeds has gone through pieces (`exists_line`). So a
command line is accepted exactly when it is spelled in pieces whose items can
be taken in, and then it gives what they add up to (`ofArguments_arguments`).

Key definitions: `Line.Gives`.
Key theorems: `scan_settle`, `scan_piece`, `exists_line`,
`ofArguments_arguments`, `Line.Gives.of_perm`.
-/
import RuleHarvest.Proofs.CommandLine.Pieces

namespace RuleHarvest
namespace CommandLine

variable {s s' : Scan} {g g' : Given} {rest : List String}

/-! ### Keywords -/

namespace Scan

theorem keyword_unknown {name : String} (h : Keyword.ofName? name = none) (value? : Option String) :
    s.keyword name value? = .error (.refused (.unknown ("--" ++ name))) := by
  unfold keyword
  rw [h]

theorem keyword_next (p : Parameter) : s.keyword p.name none = s.await p := by
  have hname : Keyword.ofName? p.name = some (.parameter p) := ofName?_eq_some_iff.2 rfl
  unfold keyword
  rw [hname]

theorem keyword_equals (p : Parameter) (text : String) :
    s.keyword p.name (some text) = s.attach p text := by
  have hname : Keyword.ofName? p.name = some (.parameter p) := ofName?_eq_some_iff.2 rfl
  unfold keyword
  rw [hname]

theorem keyword_flag (f : Flag) : s.keyword f.name none = s.flag f := by
  have hname : Keyword.ofName? f.name = some (.flag f) := ofName?_eq_some_iff.2 rfl
  unfold keyword
  rw [hname]

theorem keyword_flag_equals (f : Flag) (text : String) :
    s.keyword f.name (some text) = .error (.refused (.unwantedValue f text)) := by
  have hname : Keyword.ofName? f.name = some (.flag f) := ofName?_eq_some_iff.2 rfl
  unfold keyword
  rw [hname]

/-- A keyword that is not refused at once is that of a parameter, with its value
or without, or that of a flag. -/
theorem keyword_cases {name : String} {value? : Option String}
    (h : s.keyword name value? = .ok s') :
    (∃ p : Parameter, name = p.name ∧ value? = none) ∨
      (∃ (p : Parameter) (text : String), name = p.name ∧ value? = some text) ∨
      ∃ f : Flag, name = f.name ∧ value? = none := by
  cases hname : Keyword.ofName? name with
  | none =>
    rw [keyword_unknown hname] at h
    cases h
  | some k =>
    obtain rfl := ofName?_eq_some_iff.1 hname
    cases k with
    | parameter p =>
      cases value? with
      | none => exact .inl ⟨p, rfl, rfl⟩
      | some text => exact .inr (.inl ⟨p, text, rfl, rfl⟩)
    | flag f =>
      cases value? with
      | none => exact .inr (.inr ⟨f, rfl, rfl⟩)
      | some text =>
        have hrefused := (keyword_flag_equals (s := s) f text).symm.trans h
        cases hrefused

/-! ### Letters -/

theorem letters_unknown {c : Char} (h : Keyword.ofLetter? c = none) (cs : List Char) :
    s.letters (c :: cs) = .error (.refused (.unknown ("-" ++ String.singleton c))) := by
  rw [letters.eq_def]
  dsimp only
  rw [h]

theorem letters_flag (f : Flag) (cs : List Char) :
    s.letters (f.letter :: cs) = s.flag f >>= fun s => s.letters cs := by
  rw [letters.eq_def]
  dsimp only
  rw [ofLetter?_eq_some_iff.2 (letter?_flag f)]

theorem letters_next (p : Lettered) : s.letters [p.letter] = s.await p.parameter := by
  rw [letters.eq_def]
  dsimp only
  rw [ofLetter?_eq_some_iff.2 p.isLetter]

theorem letters_equals (p : Lettered) (text : List Char) :
    s.letters (p.letter :: '=' :: text) = s.attach p.parameter (String.ofList text) := by
  rw [letters.eq_def]
  dsimp only
  rw [ofLetter?_eq_some_iff.2 p.isLetter]
  rfl

theorem letters_joined (p : Lettered) {c : Char} (hc : c ≠ '=') (cs : List Char) :
    s.letters (p.letter :: c :: cs) = s.attach p.parameter (String.ofList (c :: cs)) := by
  rw [letters.eq_def]
  dsimp only
  rw [ofLetter?_eq_some_iff.2 p.isLetter]
  split
  · rename_i hletter
    cases hletter
  · rename_i hletter
    cases hletter
  · rename_i hcs
    cases hcs
  · rename_i hcs
    exact absurd (List.cons.inj hcs).1 hc
  · rename_i hletter _ _
    obtain rfl := Keyword.parameter.inj (Option.some.inj hletter)
    rfl

/-- A letter that is not refused at once is that of a flag or of a parameter. -/
theorem letters_cases {c : Char} {cs : List Char} (h : s.letters (c :: cs) = .ok s') :
    (∃ f : Flag, c = f.letter) ∨ ∃ p : Lettered, c = p.letter := by
  cases hletter : Keyword.ofLetter? c with
  | none =>
    rw [letters_unknown hletter] at h
    cases h
  | some k =>
    have hk := ofLetter?_eq_some_iff.1 hletter
    cases k with
    | flag f => exact .inl ⟨f, Option.some.inj (hk.symm.trans (letter?_flag f))⟩
    | parameter p => exact .inr ⟨⟨p, c, hk⟩, rfl⟩

/-- What stands behind the letter of a parameter, if anything, is its value. -/
theorem exists_value {cs : List Char} (h : cs ≠ []) :
    ∃ value : LetterValue, value.attached = cs ∧ value.following = [] := by
  obtain ⟨c, cs, rfl⟩ := List.exists_cons_of_ne_nil h
  by_cases hc : c = '='
  · subst hc
    refine ⟨.equals (String.ofList cs), ?_, rfl⟩
    simp [LetterValue.attached]
  · exact ⟨.joined c cs hc, rfl, rfl⟩

theorem letters_attached (p : Lettered) {value : LetterValue} (h : value.following = []) :
    s.letters (p.letter :: value.attached) = s.attach p.parameter value.text := by
  cases value with
  | next text => cases h
  | joined c cs hc => exact letters_joined p hc cs
  | equals text =>
    show s.letters (p.letter :: '=' :: text.toList) = s.attach p.parameter text
    rw [letters_equals, String.ofList_toList]

end Scan

/-! ### A pending value -/

/-- What goes on from an action that succeeds like two in a row goes on from the
second of them. -/
theorem bind_of_steps {ε α β γ : Type} {x : Except ε α} {y : Except ε β} {f : α → Except ε β}
    (h : ∀ b, y = .ok b ↔ ∃ a, x = .ok a ∧ f a = .ok b) (k : β → Except ε γ) (c : γ) :
    y >>= k = .ok c ↔ ∃ a, x = .ok a ∧ f a >>= k = .ok c := by
  simp only [bind_eq_ok_iff, h]
  constructor
  · rintro ⟨b, ⟨a, hx, hf⟩, hk⟩
    exact ⟨a, hx, b, hf, hk⟩
  · rintro ⟨a, hx, b, hf, hk⟩
    exact ⟨b, ⟨a, hx, hf⟩, hk⟩

namespace Scan

/-- What a keyword does to a scan with a pending value it does once the value is
taken in. -/
theorem keyword_settle {name : String} {value? : Option String} :
    s.keyword name value? = .ok s' ↔
      ∃ g, s.settle = .ok g ∧ (⟨g, .nothing⟩ : Scan).keyword name value? = .ok s' := by
  cases hname : Keyword.ofName? name with
  | none => simp [keyword_unknown hname]
  | some k =>
    obtain rfl := ofName?_eq_some_iff.1 hname
    cases k with
    | parameter p =>
      cases value? with
      | none =>
        simp only [Keyword.name, keyword_next]
        exact bind_eq_ok_iff
      | some text =>
        simp only [Keyword.name, keyword_equals]
        exact bind_eq_ok_iff
    | flag f =>
      cases value? with
      | none =>
        simp only [Keyword.name, keyword_flag]
        exact bind_eq_ok_iff
      | some text => simp [Keyword.name, keyword_flag_equals]

/-- So do letters. -/
theorem letters_settle {c : Char} {cs : List Char} :
    s.letters (c :: cs) = .ok s' ↔
      ∃ g, s.settle = .ok g ∧ (⟨g, .nothing⟩ : Scan).letters (c :: cs) = .ok s' := by
  cases hletter : Keyword.ofLetter? c with
  | none => simp [letters_unknown hletter]
  | some k =>
    have hk := ofLetter?_eq_some_iff.1 hletter
    cases k with
    | flag f =>
      obtain rfl := Option.some.inj (hk.symm.trans (letter?_flag f))
      simp only [letters_flag]
      exact bind_of_steps (fun _ => bind_eq_ok_iff) _ _
    | parameter p =>
      by_cases hcs : cs = []
      · have hnext : ∀ s : Scan, s.letters (c :: cs) = s.await p := by
          intro s
          rw [hcs]
          exact letters_next ⟨p, c, hk⟩
        simp only [hnext]
        exact bind_eq_ok_iff
      · obtain ⟨value, rfl, hvalue⟩ := exists_value hcs
        have hattached : ∀ s : Scan, s.letters (c :: value.attached) = s.attach p value.text :=
          fun s => letters_attached ⟨p, c, hk⟩ hvalue
        simp only [hattached]
        exact bind_eq_ok_iff

end Scan

/-! ### Arguments in a row -/

theorem scan_nil : scan [] s = s.finish [] := by rw [scan]

theorem scan_separator : scan ("--" :: rest) s = s.finish rest := by
  have htaken : Argument.ofString "--" = .separator := by decide
  rw [scan, htaken]

theorem scan_keyword {text name : String} {value? : Option String}
    (h : Argument.ofString text = .keyword name value?) :
    scan (text :: rest) s = s.keyword name value? >>= scan rest := by
  rw [scan, h]

theorem scan_letters {text : String} {cs : List Char} (h : Argument.ofString text = .letters cs) :
    scan (text :: rest) s = s.letters cs >>= scan rest := by
  rw [scan, h]

theorem scan_plain (text : Plain) :
    scan (text.text :: rest) s = s.plain text.text >>= scan rest := by
  rw [scan, ofString_plain]

/-- **A pending value may be taken in at once.** -/
theorem scan_settle (h : ∀ p, s.waiting ≠ .value p) (arguments : List String) :
    scan arguments s = .ok g' ↔
      ∃ g, s.settle = .ok g ∧ scan arguments ⟨g, .nothing⟩ = .ok g' := by
  cases arguments with
  | nil =>
    rw [scan_nil]
    exact bind_eq_ok_iff
  | cons text rest =>
    rcases ofString_cases text with ⟨rfl, -⟩ | ⟨name, value?, htaken, -⟩ | ⟨c, cs, htaken, -⟩ |
      ⟨plain, rfl, -⟩
    · rw [scan_separator]
      exact bind_eq_ok_iff
    · simp only [scan_keyword htaken]
      exact bind_of_steps (fun _ => Scan.keyword_settle) _ _
    · simp only [scan_letters htaken]
      exact bind_of_steps (fun _ => Scan.letters_settle) _ _
    · have hplain : s.plain plain.text =
          s.settle >>= fun g => (⟨g, .nothing⟩ : Scan).plain plain.text := by
        unfold Scan.plain
        split
        · rename_i p hvalue
          exact absurd hvalue (h p)
        · rfl
      simp only [scan_plain, hplain]
      exact bind_of_steps (fun _ => bind_eq_ok_iff) _ _

/-- A parameter that waits for its value takes the next argument. -/
theorem scan_value (p : Parameter) (text : Plain) :
    scan (text.text :: rest) ⟨g, .value p⟩ = .ok g' ↔
      ∃ g₁, g.take p text.text = .ok g₁ ∧ scan rest ⟨g₁, .nothing⟩ = .ok g' := by
  have htaking : scan (text.text :: rest) ⟨g, .value p⟩ = scan rest ⟨g, .taking p text.text⟩ :=
    scan_plain text
  have hwaiting : ∀ q, Waiting.taking p text.text ≠ .value q := by simp
  rw [htaking]
  exact scan_settle hwaiting rest

/-- It takes no argument that is a keyword, and one must be there. -/
theorem exists_plain_of_scan {p : Parameter} {arguments : List String}
    (h : scan arguments ⟨g, .value p⟩ = .ok g') :
    ∃ (text : Plain) (rest : List String), arguments = text.text :: rest := by
  have hpending : ∀ g₁, (⟨g, .value p⟩ : Scan).settle ≠ .ok g₁ := by simp [Scan.settle]
  cases arguments with
  | nil =>
    rw [scan_nil] at h
    obtain ⟨g₁, hsettle, -⟩ := bind_eq_ok_iff.1 h
    exact absurd hsettle (hpending g₁)
  | cons text rest =>
    rcases ofString_cases text with ⟨rfl, -⟩ | ⟨name, value?, htaken, -⟩ | ⟨c, cs, htaken, -⟩ |
      ⟨plain, rfl, -⟩
    · rw [scan_separator] at h
      obtain ⟨g₁, hsettle, -⟩ := bind_eq_ok_iff.1 h
      exact absurd hsettle (hpending g₁)
    · rw [scan_keyword htaken] at h
      obtain ⟨s₁, hkeyword, -⟩ := bind_eq_ok_iff.1 h
      obtain ⟨g₁, hsettle, -⟩ := Scan.keyword_settle.1 hkeyword
      exact absurd hsettle (hpending g₁)
    · rw [scan_letters htaken] at h
      obtain ⟨s₁, hletters, -⟩ := bind_eq_ok_iff.1 h
      obtain ⟨g₁, hsettle, -⟩ := Scan.letters_settle.1 hletters
      exact absurd hsettle (hpending g₁)
    · exact ⟨plain, rest, rfl⟩

/-! ### Pieces -/

namespace Scan

theorem attach_nothing {p : Parameter} {text : String} :
    (⟨g, .nothing⟩ : Scan).attach p text = .ok s' ↔
      ∃ g₁, g.take p text = .ok g₁ ∧ (.ok ⟨g₁, .nothing⟩ : Except Stop Scan) = .ok s' := by
  show (g.take p text >>= fun g₁ => (.ok ⟨g₁, .nothing⟩ : Except Stop Scan)) = .ok s' ↔ _
  exact bind_eq_ok_iff

theorem finish_nothing (behind : List String) :
    (⟨g, .nothing⟩ : Scan).finish behind = .ok { g with urls := g.urls ++ behind } := rfl

theorem flag_nothing {f : Flag} :
    (⟨g, .nothing⟩ : Scan).flag f = .ok s' ↔
      ∃ g₁, g.raise f = .ok g₁ ∧ (.ok ⟨g₁, .nothing⟩ : Except Stop Scan) = .ok s' := by
  show (g.raise f >>= fun g₁ => (.ok ⟨g₁, .nothing⟩ : Except Stop Scan)) = .ok s' ↔ _
  exact bind_eq_ok_iff

end Scan

/-- The letters of flags raise them. -/
theorem letters_flags (cs : List Char) : ∀ (flags : List Flag) (g : Given),
    (⟨g, .nothing⟩ : Scan).letters (flags.map Flag.letter ++ cs) = .ok s' ↔
      ∃ g₁, g.addAll (flags.map .flag) = .ok g₁ ∧ (⟨g₁, .nothing⟩ : Scan).letters cs = .ok s'
  | [], g => by simp [Given.addAll_nil]
  | f :: flags, g => by
    rw [List.map_cons, List.cons_append, Scan.letters_flag,
      bind_of_steps (fun _ => Scan.flag_nothing), List.map_cons, Given.addAll_cons,
      exists_bind_eq_ok_iff]
    exact exists_congr fun g₁ => and_congr_right fun _ => letters_flags cs flags g₁

/-- A parameter by its letter takes its value, wherever that is. -/
theorem scan_letter (p : Lettered) (value : LetterValue) :
    (⟨g, .nothing⟩ : Scan).letters (p.letter :: value.attached) >>= scan (value.following ++ rest) =
        .ok g' ↔
      ∃ g₁, g.take p.parameter value.text = .ok g₁ ∧ scan rest ⟨g₁, .nothing⟩ = .ok g' := by
  have hattach : (⟨g, .nothing⟩ : Scan).attach p.parameter value.text >>= scan rest = .ok g' ↔
      ∃ g₁, g.take p.parameter value.text = .ok g₁ ∧ scan rest ⟨g₁, .nothing⟩ = .ok g' :=
    bind_of_steps (fun _ => Scan.attach_nothing) _ _
  cases value with
  | next text =>
    rw [LetterValue.attached, Scan.letters_next]
    exact scan_value p.parameter text
  | joined c cs hc =>
    rw [Scan.letters_attached p rfl]
    exact hattach
  | equals text =>
    rw [Scan.letters_attached p rfl]
    exact hattach

/-- **A piece is read as what it says**, and the reading goes on behind it. -/
theorem scan_piece (p : Piece) :
    scan (p.arguments ++ rest) ⟨g, .nothing⟩ = .ok g' ↔
      ∃ g₁, g.addAll p.items = .ok g₁ ∧ scan rest ⟨g₁, .nothing⟩ = .ok g' := by
  cases p with
  | address text =>
    simp only [Piece.items, Given.addAll_singleton, Given.add, Except.ok.injEq, exists_eq_left']
    rw [Piece.arguments, List.singleton_append, scan_plain]
    rfl
  | next p text =>
    have htaken := ofString_keyword (.parameter p)
    simp only [Keyword.name] at htaken
    simp only [Piece.items, Given.addAll_singleton]
    rw [Piece.arguments, List.cons_append, scan_keyword htaken, Scan.keyword_next]
    exact scan_value p text
  | equals p text =>
    have htaken := ofString_keyword_equals (.parameter p) text
    simp only [Keyword.name] at htaken
    simp only [Piece.items, Given.addAll_singleton]
    rw [Piece.arguments, List.singleton_append, scan_keyword htaken, Scan.keyword_equals]
    exact bind_of_steps (fun _ => Scan.attach_nothing) _ _
  | flag f =>
    have htaken := ofString_keyword (.flag f)
    simp only [Keyword.name] at htaken
    simp only [Piece.items, Given.addAll_singleton]
    rw [Piece.arguments, List.singleton_append, scan_keyword htaken, Scan.keyword_flag]
    exact bind_of_steps (fun _ => Scan.flag_nothing) _ _
  | letters f more =>
    have hletters : ∀ s₁, (⟨g, .nothing⟩ : Scan).letters (f.letter :: more.map Flag.letter) = .ok s₁ ↔
        ∃ g₁, g.addAll (.flag f :: more.map .flag) = .ok g₁ ∧
          (.ok ⟨g₁, .nothing⟩ : Except Stop Scan) = .ok s₁ := by
      intro s₁
      have hflags : (⟨g, .nothing⟩ : Scan).letters ((f :: more).map Flag.letter ++ []) = .ok s₁ ↔ _ :=
        letters_flags [] (f :: more) g
      simpa [Scan.letters] using hflags
    rw [Piece.arguments, List.singleton_append,
      scan_letters (ofString_letters (ne_dash_of_letter? (letter?_flag f)) _)]
    exact bind_of_steps hletters _ _
  | lettersValue flags p value =>
    have htaken : Argument.ofString
        (String.ofList ('-' :: (flags.map Flag.letter ++ p.letter :: value.attached))) =
          .letters (flags.map Flag.letter ++ p.letter :: value.attached) := by
      cases flags with
      | nil => exact ofString_letters (ne_dash_of_letter? p.isLetter) _
      | cons f flags => exact ofString_letters (ne_dash_of_letter? (letter?_flag f)) _
    rw [Piece.arguments, List.cons_append, scan_letters htaken,
      bind_of_steps (fun _ => letters_flags _ flags g)]
    rw [Piece.items, Given.addAll_append, exists_bind_eq_ok_iff]
    refine exists_congr fun g₁ => and_congr_right fun _ => ?_
    simp only [Given.addAll_singleton]
    exact scan_letter p value

/-- So are pieces in a row. -/
theorem scan_pieces (pieces : List Piece) : ∀ {g : Given},
    scan (pieces.flatMap Piece.arguments ++ rest) ⟨g, .nothing⟩ = .ok g' ↔
      ∃ g₁, g.addAll (pieces.flatMap Piece.items) = .ok g₁ ∧ scan rest ⟨g₁, .nothing⟩ = .ok g' := by
  induction pieces with
  | nil =>
    intro g
    simp [Given.addAll_nil]
  | cons p pieces ih =>
    intro g
    rw [List.flatMap_cons, List.append_assoc, scan_piece, List.flatMap_cons, Given.addAll_append,
      exists_bind_eq_ok_iff]
    exact exists_congr fun g₁ => and_congr_right fun _ => ih

/-! ### Taking a command line apart -/

/-- Letters that are not refused are those of flags, and perhaps the letter of a
parameter and what is attached to it. -/
theorem exists_letters : ∀ {cs : List Char} {g : Given},
    (⟨g, .nothing⟩ : Scan).letters cs = .ok s' →
      ∃ flags : List Flag, cs = flags.map Flag.letter ∨
        ∃ (p : Lettered) (tail : List Char), cs = flags.map Flag.letter ++ p.letter :: tail
  | [], g, _ => ⟨[], .inl rfl⟩
  | c :: cs, g, h => by
    obtain ⟨f, rfl⟩ | ⟨p, rfl⟩ := Scan.letters_cases h
    · obtain ⟨g₁, -, hrest⟩ := (letters_flags cs [f] g).1 h
      obtain ⟨flags, rfl | ⟨p, tail, rfl⟩⟩ := exists_letters hrest
      · exact ⟨f :: flags, .inl rfl⟩
      · exact ⟨f :: flags, .inr ⟨p, tail, rfl⟩⟩
    · exact ⟨[], .inr ⟨p, cs, rfl⟩⟩

/-- What a reading that succeeds has in front is a piece or the two dashes. -/
theorem exists_piece {text : String} (h : scan (text :: rest) ⟨g, .nothing⟩ = .ok g') :
    text = "--" ∨ ∃ (p : Piece) (behind : List String),
      text :: rest = p.arguments ++ behind ∧ behind.length ≤ rest.length := by
  rcases ofString_cases text with ⟨rfl, -⟩ | ⟨name, value?, htaken, htext⟩ |
    ⟨c, cs, htaken, htext⟩ | ⟨plain, rfl, -⟩
  · exact .inl rfl
  · right
    rw [scan_keyword htaken, bind_eq_ok_iff] at h
    obtain ⟨s₁, hkeyword, hscan⟩ := h
    obtain ⟨p, rfl, rfl⟩ | ⟨p, value, rfl, rfl⟩ | ⟨f, rfl, rfl⟩ := Scan.keyword_cases hkeyword
    · rw [Scan.keyword_next] at hkeyword
      obtain rfl := Except.ok.inj hkeyword
      obtain ⟨value, behind, rfl⟩ := exists_plain_of_scan hscan
      refine ⟨.next p value, behind, ?_, by simp⟩
      simp [Piece.arguments, htext]
    · refine ⟨.equals p value, rest, ?_, le_rfl⟩
      simp [Piece.arguments, htext, String.append_assoc]
    · refine ⟨.flag f, rest, ?_, le_rfl⟩
      simp [Piece.arguments, htext]
  · right
    rw [scan_letters htaken, bind_eq_ok_iff] at h
    obtain ⟨s₁, hletters, hscan⟩ := h
    obtain ⟨flags, hcs | ⟨p, tail, hcs⟩⟩ := exists_letters hletters
    · cases flags with
      | nil => cases hcs
      | cons f more =>
        refine ⟨.letters f more, rest, ?_, le_rfl⟩
        rw [htext, hcs]
        rfl
    · by_cases htail : tail = []
      · rw [hcs, htail, letters_flags] at hletters
        obtain ⟨g₁, -, hp⟩ := hletters
        rw [Scan.letters_next] at hp
        obtain rfl := Except.ok.inj hp
        obtain ⟨value, behind, rfl⟩ := exists_plain_of_scan hscan
        refine ⟨.lettersValue flags p (.next value), behind, ?_, by simp⟩
        rw [htext, hcs, htail]
        rfl
      · obtain ⟨value, rfl, hvalue⟩ := Scan.exists_value htail
        refine ⟨.lettersValue flags p value, rest, ?_, le_rfl⟩
        rw [htext, hcs, Piece.arguments, hvalue]
        rfl
  · exact .inr ⟨.address plain, rest, rfl, le_rfl⟩

/-- **A command line that is accepted is spelled in pieces.** -/
theorem exists_line (arguments : List String) (g : Given)
    (h : scan arguments ⟨g, .nothing⟩ = .ok g') : ∃ l : Line, l.arguments = arguments := by
  cases arguments with
  | nil => exact ⟨⟨[], none⟩, rfl⟩
  | cons text rest =>
    obtain rfl | ⟨p, behind, hsplit, hlength⟩ := exists_piece h
    · exact ⟨⟨[], some rest⟩, rfl⟩
    · rw [hsplit, scan_piece] at h
      obtain ⟨g₁, -, hbehind⟩ := h
      obtain ⟨l, rfl⟩ := exists_line behind g₁ hbehind
      exact ⟨l.cons p, by rw [Line.arguments_cons, hsplit]⟩
termination_by arguments.length
decreasing_by
  subst_vars
  simpa using Nat.lt_succ_of_le hlength

/-! ### What a command line gives -/

/-- What the items of a line and what stands behind its dashes come to. -/
structure Line.Gives (l : Line) (g : Given) : Prop where
  urls : g.urls = l.addresses
  ruleIds : g.ruleIds = l.numbers
  value : ∀ s : Setting, s.Settles none (l.values s) (g.value? s)
  verbose : Raises false (l.items.filterMap Item.flag?) g.verbose

/-- **What a command line gives.** -/
theorem ofArguments_arguments (l : Line) : Given.ofArguments l.arguments = .ok g ↔ l.Gives g := by
  have hbehind : ∀ g₁ : Given, scan ((l.behind?.map ("--" :: ·)).getD []) ⟨g₁, .nothing⟩ = .ok g ↔
      { g₁ with urls := g₁.urls ++ l.behind?.getD [] } = g := by
    intro g₁
    cases l.behind? with
    | none =>
      show scan [] ⟨g₁, .nothing⟩ = .ok g ↔ _
      rw [scan_nil, Scan.finish_nothing, Except.ok.injEq]
      rfl
    | some behind =>
      show scan ("--" :: behind) ⟨g₁, .nothing⟩ = .ok g ↔ _
      rw [scan_separator, Scan.finish_nothing, Except.ok.injEq]
      rfl
  have hread : Given.ofArguments l.arguments = .ok g ↔
      ∃ g₁, Adds {} l.items g₁ ∧ { g₁ with urls := g₁.urls ++ l.behind?.getD [] } = g := by
    unfold Given.ofArguments Line.arguments
    rw [scan_pieces]
    simp only [addAll_eq_ok_iff, hbehind]
    rfl
  rw [hread]
  constructor
  · rintro ⟨g₁, hadds, rfl⟩
    refine ⟨?_, ?_, hadds.value, hadds.verbose⟩
    · simp [hadds.urls, Line.addresses]
    · simp [hadds.ruleIds, Line.numbers]
  · intro hgives
    refine ⟨{ g with urls := l.items.filterMap Item.address? }, ?_, ?_⟩
    · exact ⟨rfl, hgives.ruleIds, hgives.value, hgives.verbose⟩
    · exact Given.ext hgives.urls.symm rfl (fun _ => rfl) rfl

/-- **The order of the pieces does not matter**, as long as the addresses keep
theirs and the numbers of rules keep theirs. -/
theorem Line.Gives.of_perm {l l' : Line} (h : l.Gives g) (hpieces : l'.pieces.Perm l.pieces)
    (haddresses : l'.addresses = l.addresses) (hnumbers : l'.numbers = l.numbers) : l'.Gives g where
  urls := by rw [haddresses, h.urls]
  ruleIds := by rw [hnumbers, h.ruleIds]
  value s := (h.value s).of_perm ((hpieces.flatMap_right _).filterMap _)
  verbose := h.verbose.of_perm ((hpieces.flatMap_right _).filterMap _)

end CommandLine
end RuleHarvest
