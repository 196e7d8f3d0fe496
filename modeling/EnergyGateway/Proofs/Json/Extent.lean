import EnergyGateway.Json.Reader
import Mathlib.Data.List.TakeWhile

/-!
# Where a value ends

The reader does not look behind a value: what it has read, it reads again with the same rest when the text goes on
(`readValue_append`).  Numbers are the exception, as a digit more makes another number, but only at the very end of
a text.  So an object that is a whole text can only be continued by blanks (`isSpace_of_readChars_append`).
-/

namespace EnergyGateway.Document

variable {cs rest : List Char}

/-! ### Spans -/

private theorem takeWhile_append {p : Char → Bool} (h : cs.dropWhile p ≠ []) (more : List Char) :
    (cs ++ more).takeWhile p = cs.takeWhile p := by
  induction cs with
  | nil => exact absurd rfl h
  | cons c cs ih =>
    by_cases hc : p c
    · rw [List.dropWhile_cons_of_pos hc] at h
      rw [List.cons_append, List.takeWhile_cons_of_pos hc, List.takeWhile_cons_of_pos hc, ih h]
    · rw [List.cons_append, List.takeWhile_cons_of_neg hc, List.takeWhile_cons_of_neg hc]

private theorem dropWhile_append {p : Char → Bool} (h : cs.dropWhile p ≠ []) (more : List Char) :
    (cs ++ more).dropWhile p = cs.dropWhile p ++ more := by
  rw [List.dropWhile_append, if_neg (by simpa using h)]

theorem skipSpace_append (h : skipSpace cs ≠ []) (more : List Char) :
    skipSpace (cs ++ more) = skipSpace cs ++ more := dropWhile_append h more

private theorem skipSpace_append_of_eq {c : Char} (h : skipSpace cs = c :: rest) (more : List Char) :
    skipSpace (cs ++ more) = c :: (rest ++ more) := by
  rw [skipSpace_append (by rw [h]; exact List.cons_ne_nil c rest), h, List.cons_append]

private theorem ne_nil_of_skipSpace {c : Char} (h : skipSpace cs = c :: rest) : cs ≠ [] := by
  rintro rfl
  cases h

/-! ### Numbers -/

theorem minus_append (h : cs ≠ []) (more : List Char) :
    minus (cs ++ more) = ((minus cs).1, (minus cs).2 ++ more) := by
  obtain ⟨c, tail, rfl⟩ := List.exists_cons_of_ne_nil h
  by_cases hc : c = '-'
  · subst hc
    rfl
  · simp [minus, hc]

theorem placesPart?_append {places : Option (List Char)} (h : placesPart? cs = some (places, rest)) (hr : rest ≠ [])
    (more : List Char) : placesPart? (cs ++ more) = some (places, rest ++ more) := by
  unfold placesPart? at h
  split at h
  · rename_i tail
    simp only [Option.ite_none_left_eq_some, Option.some.injEq, Prod.mk.injEq] at h
    obtain ⟨hds, rfl, rfl⟩ := h
    simp [placesPart?, takeWhile_append hr, dropWhile_append hr, hds]
  · rename_i hpoint
    cases h
    obtain ⟨c, tail, rfl⟩ := List.exists_cons_of_ne_nil hr
    have hc : c ≠ '.' := fun he => hpoint tail (he ▸ rfl)
    simp [placesPart?, hc]

private theorem ne_nil_of_placesPart? {places : Option (List Char)} (h : placesPart? cs = some (places, rest))
    (hr : rest ≠ []) : cs ≠ [] := by
  rintro rfl
  cases h
  exact hr rfl

theorem exponentSign_append (h : cs ≠ []) (more : List Char) :
    exponentSign (cs ++ more) = ((exponentSign cs).1, (exponentSign cs).2 ++ more) := by
  obtain ⟨c, tail, rfl⟩ := List.exists_cons_of_ne_nil h
  by_cases hc : c = '+'
  · subst hc
    rfl
  · simpa [exponentSign, hc] using minus_append h more

theorem exponent?_append {e : Int} (h : exponent? cs = some (e, rest)) (hr : rest ≠ []) (more : List Char) :
    exponent? (cs ++ more) = some (e, rest ++ more) := by
  have hcs : cs ≠ [] := by
    rintro rfl
    cases h
  simp only [exponent?, Option.map_eq_some_iff, Prod.mk.injEq] at h
  obtain ⟨n, hn, he, rfl⟩ := h
  simp [exponent?, exponentSign_append hcs, takeWhile_append hr, dropWhile_append hr, hn, he]

theorem exponentPart?_append {e : Option Int} (h : exponentPart? cs = some (e, rest)) (hr : rest ≠ [])
    (more : List Char) : exponentPart? (cs ++ more) = some (e, rest ++ more) := by
  cases cs with
  | nil =>
    cases h
    exact absurd rfl hr
  | cons c tail =>
    by_cases hc : c = 'e' ∨ c = 'E'
    · rw [exponentPart?, if_pos hc] at h
      obtain ⟨⟨n, r⟩, hn, h⟩ := Option.map_eq_some_iff.1 h
      cases h
      rw [List.cons_append, exponentPart?, if_pos hc, exponent?_append hn hr]
      rfl
    · rw [exponentPart?, if_neg hc] at h
      cases h
      rw [List.cons_append, exponentPart?, if_neg hc]

private theorem ne_nil_of_exponentPart? {e : Option Int} (h : exponentPart? cs = some (e, rest)) (hr : rest ≠ []) :
    cs ≠ [] := by
  rintro rfl
  cases h
  exact hr rfl

/-- A number that something follows is the same number when more follows. -/
theorem literal?_append {l : Literal} (h : literal? cs = some (l, rest)) (hr : rest ≠ []) (more : List Char) :
    literal? (cs ++ more) = some (l, rest ++ more) := by
  simp only [literal?, Option.bind_eq_bind, Option.pure_def] at h
  split at h
  · cases h
  · rename_i hwhole
    obtain ⟨⟨places, behind⟩, hplaces, h⟩ := Option.bind_eq_some_iff.1 h
    obtain ⟨⟨exponent, r⟩, hexponent, h⟩ := Option.bind_eq_some_iff.1 h
    cases h
    -- something is left behind each part, since something is left at the end
    have hbehind := ne_nil_of_exponentPart? hexponent hr
    have hdigits := ne_nil_of_placesPart? hplaces hbehind
    have hcs : cs ≠ [] := by
      rintro rfl
      exact hdigits rfl
    simp only [literal?, Option.bind_eq_bind, Option.pure_def, minus_append hcs, takeWhile_append hdigits,
      dropWhile_append hdigits, placesPart?_append hplaces hbehind, exponentPart?_append hexponent hr, if_neg hwhole,
      Option.bind_some]

theorem head_of_literal? {c : Char} {l : Literal} (h : literal? (c :: cs) = some (l, rest)) :
    c = '-' ∨ c.isDigit := by
  by_cases hc : c = '-'
  · exact .inl hc
  · cases hdigit : c.isDigit with
    | true => exact .inr rfl
    | false => simp [literal?, minus, hc, hdigit] at h

/-! ### Texts -/

theorem units?_append {us : List Nat} (h : units? cs = some (us, rest)) (more : List Char) :
    units? (cs ++ more) = some (us, rest ++ more) := by
  fun_induction units? cs generalizing us rest with
  | case1 => cases h
  | case2 =>
    cases h
    rfl
  | case3 a b c d tail ih =>
    simp only [Option.bind_eq_bind, Option.bind_eq_some_iff, Option.pure_def, Option.some.injEq] at h
    obtain ⟨u, hu, ⟨vs, r⟩, hvs, h⟩ := h
    cases h
    simp [units?, hu, ih hvs]
  | case4 e tail hne ih =>
    simp only [Option.bind_eq_bind, Option.bind_eq_some_iff, Option.pure_def, Option.some.injEq] at h
    obtain ⟨u, hu, ⟨vs, r⟩, hvs, h⟩ := h
    cases h
    have he : e ≠ 'u' := by
      rintro rfl
      cases hu
    simp [units?, he, hu, ih hvs]
  | case5 => cases h
  | case6 c tail hquote hu he jp hc =>
    rename_i ih
    simp only [jp, Option.bind_eq_bind, Option.bind_eq_some_iff, Option.pure_def, Option.some.injEq] at h
    obtain ⟨⟨vs, r⟩, hvs, h⟩ := h
    cases h
    -- a backslash here would be the last character
    have hslash : c ≠ '\\' := by
      rintro rfl
      cases tail with
      | nil => cases hvs
      | cons e tail => exact he e tail rfl rfl
    simp [units?, hslash, hc, ih hvs]

theorem text?_append {s : Option String} (h : text? cs = some (s, rest)) (more : List Char) :
    text? (cs ++ more) = some (s, rest ++ more) := by
  obtain ⟨⟨us, r⟩, hus, h⟩ := Option.map_eq_some_iff.1 h
  cases h
  simp [text?, units?_append hus]

/-! ### Values -/

theorem readValue_number {c : Char} (h : c = '-' ∨ c.isDigit) (n depth : Nat) (cs : List Char) :
    readValue (n + 1) depth (c :: cs) =
      (literal? (c :: cs)).map fun (l, r) => (l.number?.elim .unreadable .number, r) := by
  unfold readValue
  split <;> simp_all +decide

private theorem ne_nil_of_readValue {n depth : Nat} {p : Document × List Char} (h : readValue n depth cs = some p) :
    cs ≠ [] := by
  rintro rfl
  cases n <;> simp [readValue, literal?, minus] at h

private theorem ne_nil_of_readItems {n depth : Nat} {p : List Document × List Char}
    (h : readItems n depth cs = some p) : cs ≠ [] := by
  cases n with
  | zero => cases h
  | succ n =>
    obtain ⟨_, hd, -⟩ := Option.bind_eq_some_iff.1 h
    exact ne_nil_of_readValue hd

private theorem ne_nil_of_readMembers {n depth : Nat} {p : Option (List (String × Document)) × List Char}
    (h : readMembers n depth cs = some p) : cs ≠ [] := by
  rintro rfl
  cases n <;> simp [readMembers] at h

/-- With at least `n` steps of fuel, the readers read what they read with `n` steps, and leave what follows.  Only
a number at the end of the text is left out. -/
private structure Extends (n : Nat) : Prop where
  value {m depth : Nat} {cs rest : List Char} {d : Document} : n ≤ m → readValue n depth cs = some (d, rest) →
    (rest = [] → cs.head? = some '{') → ∀ more, readValue m depth (cs ++ more) = some (d, rest ++ more)
  items {m depth : Nat} {cs rest : List Char} {ds : List Document} : n ≤ m → readItems n depth cs = some (ds, rest) →
    ∀ more, readItems m depth (cs ++ more) = some (ds, rest ++ more)
  members {m depth : Nat} {cs rest : List Char} {ms : Option (List (String × Document))} : n ≤ m →
    readMembers n depth cs = some (ms, rest) → ∀ more, readMembers m depth (cs ++ more) = some (ms, rest ++ more)

namespace Extends

variable {n m depth : Nat}

private theorem readValue_succ {d : Document} (he : Extends n) (hm : n ≤ m)
    (h : readValue (n + 1) depth cs = some (d, rest)) (hr : rest = [] → cs.head? = some '{') (more : List Char) :
    readValue (m + 1) depth (cs ++ more) = some (d, rest ++ more) := by
  unfold readValue at h
  split at h
  · cases h
    simp [readValue]
  · cases h
    simp [readValue]
  · cases h
    simp [readValue]
  · rename_i tail
    obtain ⟨⟨s, r⟩, hs, h⟩ := Option.map_eq_some_iff.1 h
    cases h
    simp [readValue, text?_append hs]
  · -- an array
    rename_i tail
    split at h
    · rename_i r hskip
      cases h
      simp [readValue, skipSpace_append_of_eq hskip]
    · rename_i hclose
      obtain ⟨⟨ds, r⟩, hds, h⟩ := Option.map_eq_some_iff.1 h
      cases h
      have hne := ne_nil_of_readItems hds
      have happend := he.items hm hds more
      obtain ⟨c, t, ht⟩ := List.exists_cons_of_ne_nil hne
      rw [ht, List.cons_append] at happend
      have hc : c ≠ ']' := fun hc => hclose t (hc ▸ ht)
      simp [readValue, skipSpace_append hne, ht, hc, happend]
  · -- an object
    rename_i tail
    split at h
    · rename_i r hskip
      cases h
      simp [readValue, skipSpace_append_of_eq hskip]
    · rename_i hclose
      obtain ⟨⟨ms, r⟩, hms, h⟩ := Option.map_eq_some_iff.1 h
      cases h
      have hne := ne_nil_of_readMembers hms
      have happend := he.members hm hms more
      obtain ⟨c, t, ht⟩ := List.exists_cons_of_ne_nil hne
      rw [ht, List.cons_append] at happend
      have hc : c ≠ '}' := fun hc => hclose t (hc ▸ ht)
      simp [readValue, skipSpace_append hne, ht, hc, happend]
  · -- a number, behind which something is left
    obtain ⟨⟨l, r⟩, hl, h⟩ := Option.map_eq_some_iff.1 h
    cases h
    cases cs with
    | nil => simp [literal?, minus] at hl
    | cons c tail =>
      have hc := head_of_literal? hl
      have hrest : rest ≠ [] := by
        intro he
        have hbrace : c = '{' := by simpa using hr he
        subst hbrace
        rcases hc with hc | hc <;> cases hc
      rw [List.cons_append, readValue_number hc, ← List.cons_append, literal?_append hl hrest]
      rfl

private theorem readItems_succ {ds : List Document} (he : Extends n) (hm : n ≤ m)
    (h : readItems (n + 1) depth cs = some (ds, rest)) (more : List Char) :
    readItems (m + 1) depth (cs ++ more) = some (ds, rest ++ more) := by
  simp only [readItems, Option.bind_eq_bind, Option.pure_def] at h
  obtain ⟨⟨d, r⟩, hd, h⟩ := Option.bind_eq_some_iff.1 h
  split at h
  · rename_i r' hcomma
    obtain ⟨⟨ds', r''⟩, hds, h⟩ := Option.bind_eq_some_iff.1 h
    cases h
    have hvalue := he.value hm hd (absurd · (ne_nil_of_skipSpace hcomma)) more
    have hitems := he.items hm hds more
    simp [readItems, hvalue, skipSpace_append_of_eq hcomma, skipSpace_append (ne_nil_of_readItems hds), hitems]
  · rename_i r' hclose
    cases h
    have hvalue := he.value hm hd (absurd · (ne_nil_of_skipSpace hclose)) more
    simp [readItems, hvalue, skipSpace_append_of_eq hclose]
  · cases h

private theorem readMembers_succ {ms : Option (List (String × Document))} (he : Extends n) (hm : n ≤ m)
    (h : readMembers (n + 1) depth cs = some (ms, rest)) (more : List Char) :
    readMembers (m + 1) depth (cs ++ more) = some (ms, rest ++ more) := by
  unfold readMembers at h
  split at h
  · rename_i tail
    simp only [Option.bind_eq_bind, Option.pure_def] at h
    obtain ⟨⟨key, r⟩, hkey, h⟩ := Option.bind_eq_some_iff.1 h
    split at h
    · rename_i r₁ hcolon
      obtain ⟨⟨d, r₂⟩, hd, h⟩ := Option.bind_eq_some_iff.1 h
      have hvalue := ne_nil_of_readValue hd
      split at h
      · rename_i r₃ hcomma
        obtain ⟨⟨ms', r₄⟩, hms, h⟩ := Option.bind_eq_some_iff.1 h
        cases h
        have hd := he.value hm hd (absurd · (ne_nil_of_skipSpace hcomma)) more
        have hmembers := he.members hm hms more
        simp [readMembers, text?_append hkey, skipSpace_append_of_eq hcolon, skipSpace_append hvalue, hd,
          skipSpace_append_of_eq hcomma, skipSpace_append (ne_nil_of_readMembers hms), hmembers]
      · rename_i r₃ hclose
        cases h
        have hd := he.value hm hd (absurd · (ne_nil_of_skipSpace hclose)) more
        simp [readMembers, text?_append hkey, skipSpace_append_of_eq hcolon, skipSpace_append hvalue, hd,
          skipSpace_append_of_eq hclose]
      · cases h
    · cases h
  · cases h

private theorem all (n : Nat) : Extends n := by
  induction n with
  | zero => exact ⟨nofun, nofun, nofun⟩
  | succ n ih =>
    refine ⟨fun hm h hr more => ?_, fun hm h more => ?_, fun hm h more => ?_⟩
    all_goals obtain ⟨m, rfl⟩ := Nat.exists_eq_add_one_of_ne_zero (Nat.ne_of_gt (Nat.lt_of_lt_of_le n.succ_pos hm))
    · exact ih.readValue_succ (Nat.le_of_succ_le_succ hm) h hr more
    · exact ih.readItems_succ (Nat.le_of_succ_le_succ hm) h more
    · exact ih.readMembers_succ (Nat.le_of_succ_le_succ hm) h more

end Extends

/-- A value is read again with the same rest when the text goes on, unless it is a number at the end. -/
theorem readValue_append {n m depth : Nat} {d : Document} (hm : n ≤ m) (h : readValue n depth cs = some (d, rest))
    (hr : rest = [] → cs.head? = some '{') (more : List Char) :
    readValue m depth (cs ++ more) = some (d, rest ++ more) :=
  (Extends.all n).value hm h hr more

/-- An object that is a whole text can only be continued to another whole text by blanks. -/
theorem isSpace_of_readChars_append {d d' : Document} {more : List Char} (h : readChars ('{' :: cs) = some d)
    (h' : readChars ('{' :: cs ++ more) = some d') : ∀ c ∈ more, isSpace c := by
  have hskip (tail : List Char) : skipSpace ('{' :: tail) = '{' :: tail := rfl
  rw [readChars, hskip] at h
  rw [List.cons_append, readChars, hskip] at h'
  split at h
  · rename_i d rest hread
    have hfuel : 2 * ('{' :: cs).length + 1 ≤ 2 * ('{' :: (cs ++ more)).length + 1 := by
      simp only [List.length_cons, List.length_append]
      omega
    have happend := readValue_append hfuel hread (fun _ => rfl) more
    rw [List.cons_append] at happend
    rw [happend] at h'
    simp only [Option.ite_none_right_eq_some, List.isEmpty_iff, skipSpace, List.dropWhile_eq_nil_iff] at h'
    exact fun c hc => h'.1 c (List.mem_append_right rest hc)
  · cases h

end EnergyGateway.Document
