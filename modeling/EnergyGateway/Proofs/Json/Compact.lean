import EnergyGateway.Json.Printer
import EnergyGateway.Proofs.Decimal
import EnergyGateway.Proofs.Json.Extent
import Mathlib.Algebra.Group.Int.Defs
import Mathlib.Algebra.Group.Nat.Defs

/-!
# The compact form is read back

A value without binary64 numbers is read back from its compact form, as far as the reader goes into the depth
(`Document.read_compact`).  A value inside a text is followed by a comma or by the bracket that closes what stands around
it, so a number ends where its digits end; a text ends at the first bare quote; and an array or object is read part by part,
each part with the fuel that its own length gives.
-/

namespace EnergyGateway

namespace Document

variable {rest : List Char}

/-! ### What stands behind a value -/

/-- What may stand behind a value in a compact text: nothing, a comma or a closing bracket. -/
def Ends (rest : List Char) : Prop := ∀ c ∈ rest.head?, c = ',' ∨ c = ']' ∨ c = '}'

theorem ends_nil : Ends [] := nofun

theorem ends_cons {c : Char} (h : c = ',' ∨ c = ']' ∨ c = '}') (rest : List Char) : Ends (c :: rest) := by
  rintro _ ⟨⟩
  exact h

theorem takeWhile_isDigit_of_ends (h : Ends rest) : rest.takeWhile Char.isDigit = [] := by
  cases rest with
  | nil => rfl
  | cons c rest => rcases h c rfl with rfl | rfl | rfl <;> rfl

theorem dropWhile_isDigit_of_ends (h : Ends rest) : rest.dropWhile Char.isDigit = rest := by
  cases rest with
  | nil => rfl
  | cons c rest => rcases h c rfl with rfl | rfl | rfl <;> rfl

theorem placesPart?_of_ends (h : Ends rest) : placesPart? rest = some (none, rest) := by
  cases rest with
  | nil => rfl
  | cons c rest => rcases h c rfl with rfl | rfl | rfl <;> rfl

theorem exponentPart?_of_ends (h : Ends rest) : exponentPart? rest = some (none, rest) := by
  cases rest with
  | nil => rfl
  | cons c rest => rcases h c rfl with rfl | rfl | rfl <;> rfl

/-! ### Whole numbers -/

theorem head?_toDigits {n : Nat} (h : 0 < n) : (Nat.toDigits 10 n).head? ≠ some '0' := by
  induction n using Nat.strongRecOn with
  | ind n ih =>
    rw [Nat.toDigits_eq_if (by decide)]
    split
    · rename_i hlt
      have hdigit : ∀ m < 10, 0 < m → m.digitChar ≠ '0' := by decide
      simpa using hdigit n hlt h
    · rw [List.head?_append, List.head?_eq_some_head Nat.toDigits_ne_nil, Option.some_or,
        ← List.head?_eq_some_head Nat.toDigits_ne_nil]
      exact ih (n / 10) (by omega) (by omega)

theorem length_eq_one_or_head?_toDigits (n : Nat) :
    (Nat.toDigits 10 n).length = 1 ∨ (Nat.toDigits 10 n).head? ≠ some '0' := by
  rcases Nat.eq_zero_or_pos n with rfl | h
  · exact .inl rfl
  · exact .inr (head?_toDigits h)

theorem le_ofDigitChars (acc : Nat) (ds : List Char) : acc ≤ Nat.ofDigitChars 10 ds acc := by
  rw [Nat.ofDigitChars_eq_ofDigitChars_zero]
  exact Nat.le_trans (Nat.le_mul_of_pos_left acc (Nat.pow_pos (by decide))) (Nat.le_add_right _ _)

/-- Digits of a number that fits a word all fit. -/
theorem wholeDigits_of_le (acc : Nat) (ds : List Char) (h : Nat.ofDigitChars 10 ds acc ≤ Text.wordMax) :
    wholeDigits acc ds = (⟨Nat.ofDigitChars 10 ds acc, 0⟩, true) := by
  induction ds generalizing acc with
  | nil => rfl
  | cons c ds ih =>
    rw [Nat.ofDigitChars_cons] at h ⊢
    rw [wholeDigits, if_pos (Nat.le_trans (le_ofDigitChars _ ds) h), ih _ h]

/-- A whole number is written as its sign and its digits. -/
theorem toList_toString (n : Int) :
    (toString n).toList = (if n < 0 then ['-'] else []) ++ Nat.toDigits 10 n.natAbs := by
  rw [Int.toString_eq_repr, Int.repr_eq_if]
  by_cases h : n < 0
  · have habs : (-n).toNat = n.natAbs := by omega
    rw [if_neg (by omega), if_pos h, String.toList_append, Nat.repr_eq_ofList_toDigits, String.toList_ofList, habs,
      String.toList_ofList]
  · have habs : n.toNat = n.natAbs := by omega
    rw [if_pos (by omega), if_neg h, Nat.repr_eq_ofList_toDigits, String.toList_ofList, habs]
    rfl

theorem exists_toString (n : Int) : ∃ c cs, (toString n).toList = c :: cs ∧ (c = '-' ∨ c.isDigit) := by
  obtain ⟨d, ds, hds⟩ := List.exists_cons_of_ne_nil (Nat.toDigits_ne_nil (n := n.natAbs) (b := 10))
  rw [toList_toString, hds]
  by_cases h : n < 0
  · exact ⟨'-', d :: ds, by rw [if_pos h]; rfl, .inl rfl⟩
  · exact ⟨d, ds, by rw [if_neg h]; rfl, .inr (Decimal.isDigit_of_mem_toDigits (hds ▸ List.mem_cons_self))⟩

theorem minus_toString (n : Int) (rest : List Char) :
    minus ((toString n).toList ++ rest) = (decide (n < 0), Nat.toDigits 10 n.natAbs ++ rest) := by
  rw [toList_toString]
  by_cases h : n < 0
  · simp [h, minus]
  · obtain ⟨d, ds, hds⟩ := List.exists_cons_of_ne_nil (Nat.toDigits_ne_nil (n := n.natAbs) (b := 10))
    have hd : d ≠ '-' := by
      rintro rfl
      have hdigit : ('-').isDigit := Decimal.isDigit_of_mem_toDigits (hds ▸ List.mem_cons_self)
      cases hdigit
    simp [h, hds, minus, hd]

theorem literal?_toString (n : Int) (h : Ends rest) :
    literal? ((toString n).toList ++ rest) =
      some (⟨decide (n < 0), Nat.toDigits 10 n.natAbs, none, none⟩, rest) := by
  have hdigits : ∀ c ∈ Nat.toDigits 10 n.natAbs, c.isDigit := fun c hc => Decimal.isDigit_of_mem_toDigits hc
  have hwhole : (Nat.toDigits 10 n.natAbs ++ rest).takeWhile Char.isDigit = Nat.toDigits 10 n.natAbs := by
    rw [List.takeWhile_append_of_pos hdigits, takeWhile_isDigit_of_ends h, List.append_nil]
  have hbehind : (Nat.toDigits 10 n.natAbs ++ rest).dropWhile Char.isDigit = rest := by
    rw [List.dropWhile_append_of_pos hdigits, dropWhile_isDigit_of_ends h]
  have hzero : ((Nat.toDigits 10 n.natAbs).isEmpty ||
      ((Nat.toDigits 10 n.natAbs).length != 1 && (Nat.toDigits 10 n.natAbs).head? == some '0')) = false := by
    have hfirst := length_eq_one_or_head?_toDigits n.natAbs
    simpa [← or_iff_not_imp_left] using hfirst
  simp only [literal?, minus_toString, hwhole, hbehind, hzero, placesPart?_of_ends h, exponentPart?_of_ends h,
    Bool.false_eq_true, if_false, Option.bind_eq_bind, Option.bind_some, Option.pure_def]

theorem number?_toDigits {n : Int} (hmin : -2 ^ 63 ≤ n) (hmax : n < 2 ^ 64) :
    Literal.number? ⟨decide (n < 0), Nat.toDigits 10 n.natAbs, none, none⟩ = some (.int n) := by
  have hds : Nat.ofDigitChars 10 (Nat.toDigits 10 n.natAbs) 0 = n.natAbs := Nat.ofDigitChars_ten_toDigits
  have hword : n.natAbs ≤ Text.wordMax := by
    simp [Text.wordMax, UInt64.size]
    omega
  have hwhole : wholeDigits 0 (Nat.toDigits 10 n.natAbs) = (⟨n.natAbs, 0⟩, true) := by
    rw [wholeDigits_of_le 0 _ (by rw [hds]; exact hword), hds]
  have hfits : (decide (n < 0) && (n.natAbs == 0 || decide (Nat.pow 2 63 < n.natAbs))) = false := by
    simp only [Bool.and_eq_false_iff, Bool.or_eq_false_iff, decide_eq_false_iff_not, beq_eq_false_iff_ne, Nat.pow_eq]
    omega
  have hsign : (if decide (n < 0) then -(n.natAbs : Int) else n.natAbs) = n := by
    simp only [decide_eq_true_eq]
    split <;> omega
  simp only [Literal.number?, hwhole, hfits]
  exact congrArg (fun n => some (Number.int n)) hsign

/-! ### Texts -/

section Texts

open Json (escapeChar)

/-- The ways a character is written inside quotes. -/
theorem escapeChar_cases (c : Char) :
    (∃ e, escapeChar c = ['\\', e] ∧ e ≠ 'u' ∧ escaped? e = some c.toNat) ∨
    (c.toNat < 0x20 ∧
      escapeChar c = ['\\', 'u', '0', '0', Nat.digitChar (c.toNat / 16), Nat.digitChar (c.toNat % 16)]) ∨
    (escapeChar c = [c] ∧ c ≠ '"' ∧ c ≠ '\\' ∧ ¬c.toNat < 0x20) := by
  unfold escapeChar
  split_ifs with hquote hslash hb hf hn hr ht hcontrol
  iterate 7 exact .inl ⟨_, rfl, by decide, by subst_vars; rfl⟩
  · exact .inr (.inl ⟨hcontrol, rfl⟩)
  · exact .inr (.inr ⟨rfl, hquote, hslash, hcontrol⟩)

/-- The two digits of a control character are read as its code point. -/
theorem hexUnit?_control {n : Nat} (h : n < 0x20) :
    hexUnit? '0' '0' (Nat.digitChar (n / 16)) (Nat.digitChar (n % 16)) = some n := by
  revert n
  decide

variable {us : List Nat}

theorem units?_escapeChar (c : Char) {cs : List Char} (h : units? cs = some (us, rest)) :
    units? (escapeChar c ++ cs) = some (c.toNat :: us, rest) := by
  rcases escapeChar_cases c with ⟨e, hc, hu, he⟩ | ⟨hcontrol, hc⟩ | ⟨hc, hquote, hslash, hcontrol⟩
  · simp [hc, units?, hu, he, h]
  · simp [hc, units?, hexUnit?_control hcontrol, h]
  · simp [hc, units?, hslash, hcontrol, h]

theorem units?_flatMap (cs rest : List Char) :
    units? (cs.flatMap escapeChar ++ '"' :: rest) = some (cs.map Char.toNat, rest) := by
  induction cs with
  | nil => rfl
  | cons c cs ih => rw [List.flatMap_cons, List.append_assoc, units?_escapeChar c ih, List.map_cons]

/-- A character is no half of a pair. -/
theorem isSurrogate_toNat (c : Char) : isHighSurrogate c.toNat = false ∧ isLowSurrogate c.toNat = false := by
  have hvalid : c.toNat < 0xD800 ∨ 0xDFFF < c.toNat ∧ c.toNat < 0x110000 := c.valid
  simp [isHighSurrogate, isLowSurrogate]
  omega

theorem joinUnits?_toNat (cs : List Char) : joinUnits? (cs.map Char.toNat) = some cs := by
  induction cs with
  | nil => rfl
  | cons c cs ih =>
    obtain ⟨hhigh, hlow⟩ := isSurrogate_toNat c
    cases cs with
    | nil => simp [joinUnits?, hhigh, hlow]
    | cons d cs =>
      simp only [List.map_cons] at ih ⊢
      simp [joinUnits?, hhigh, hlow, ih]

/-- A text in quotes is read back. -/
theorem text?_quote (s : String) (rest : List Char) :
    text? (s.toList.flatMap escapeChar ++ '"' :: rest) = some (some s, rest) := by
  simp [text?, units?_flatMap, joinUnits?_toNat]

end Texts

end Document

/-! ### Values -/

namespace Json

/-- A value without binary64 numbers; its numbers are those of a word of 64 bits, signed or not. -/
inductive Whole : Json → Prop
  | null : Whole .null
  | bool (b : Bool) : Whole (.bool b)
  | int {n : Int} (hmin : -2 ^ 63 ≤ n) (hmax : n < 2 ^ 64) : Whole (.number (.int n))
  | string (s : String) : Whole (.string s)
  | array {items : List Json} (h : ∀ j ∈ items, Whole j) : Whole (.array items)
  | object {members : List (String × Json)} (h : ∀ e ∈ members, Whole e.2) : Whole (.object members)

mutual

/-- How many arrays and objects stand inside one another in a value, itself included. -/
def depth : Json → Nat
  | .array items => depths items + 1
  | .object members => memberDepths members + 1
  | _ => 0

def depths : List Json → Nat
  | [] => 0
  | j :: rest => max j.depth (depths rest)

def memberDepths : List (String × Json) → Nat
  | [] => 0
  | (_, j) :: rest => max j.depth (memberDepths rest)

end

theorem depths_le_iff {items : List Json} {n : Nat} : depths items ≤ n ↔ ∀ j ∈ items, j.depth ≤ n := by
  induction items with
  | nil => simp [depths]
  | cons j items ih => rw [depths, Nat.max_le, ih, List.forall_mem_cons]

theorem memberDepths_le_iff {members : List (String × Json)} {n : Nat} :
    memberDepths members ≤ n ↔ ∀ e ∈ members, e.2.depth ≤ n := by
  induction members with
  | nil => simp [memberDepths]
  | cons e members ih => rw [memberDepths, Nat.max_le, ih, List.forall_mem_cons]

/-- A value without binary64 numbers that has at most `n` arrays and objects inside one another. -/
def Within (n : Nat) (j : Json) : Prop := j.Whole ∧ j.depth ≤ n

theorem within_string (n : Nat) (s : String) : (Json.string s).Within n := ⟨.string s, Nat.zero_le n⟩

theorem within_bool (n : Nat) (b : Bool) : (Json.bool b).Within n := ⟨.bool b, Nat.zero_le n⟩

theorem within_nat (n : Nat) {m : Nat} (h : m < 2 ^ 64) : (nat m).Within n :=
  ⟨.int (by omega) (by exact_mod_cast h), Nat.zero_le n⟩

theorem within_array {n : Nat} {items : List Json} (h : ∀ j ∈ items, j.Within n) : (Json.array items).Within (n + 1) :=
  ⟨.array fun j hj => (h j hj).1, Nat.succ_le_succ (depths_le_iff.2 fun j hj => (h j hj).2)⟩

theorem within_object {n : Nat} {members : List (String × Json)} (h : ∀ e ∈ members, e.2.Within n) :
    (Json.object members).Within (n + 1) :=
  ⟨.object fun e he => (h e he).1, Nat.succ_le_succ (memberDepths_le_iff.2 fun e he => (h e he).2)⟩

theorem Within.mono {m n : Nat} {j : Json} (h : j.Within m) (hmn : m ≤ n) : j.Within n := ⟨h.1, Nat.le_trans h.2 hmn⟩

/-- The text of a value begins with a character that is neither a blank nor a closing bracket. -/
theorem Whole.exists_compactChars {j : Json} (h : j.Whole) :
    ∃ c cs, j.compactChars = c :: cs ∧ Document.isSpace c = false ∧ c ≠ ']' := by
  cases h with
  | @int n _ _ =>
    obtain ⟨c, cs, heq, hc⟩ := Document.exists_toString n
    refine ⟨c, cs, heq, ?_⟩
    rcases hc with rfl | hc
    · decide
    · simp only [Document.isSpace, Bool.or_eq_false_iff, beq_eq_false_iff_ne]
      refine ⟨⟨⟨⟨?_, ?_⟩, ?_⟩, ?_⟩, ?_⟩ <;> rintro rfl <;> cases hc
  | bool b => cases b <;> exact ⟨_, _, rfl, rfl, by decide⟩
  | null => exact ⟨_, _, rfl, rfl, by decide⟩
  | string _ => exact ⟨_, _, rfl, rfl, by decide⟩
  | array _ => exact ⟨_, _, rfl, rfl, by decide⟩
  | object _ => exact ⟨_, _, rfl, rfl, by decide⟩

end Json

namespace Document

open Json

theorem skipSpace_cons {c : Char} (h : isSpace c = false) (cs : List Char) : skipSpace (c :: cs) = c :: cs := by
  rw [skipSpace, List.dropWhile_cons_of_neg (by simp [h])]

section Steps

variable {fuel depth : Nat} {cs more rest : List Char} {d : Document}

theorem readItems_last (hvalue : readValue fuel depth cs = some (d, ']' :: rest)) :
    readItems (fuel + 1) depth cs = some ([d], rest) := by
  simp [readItems, hvalue, skipSpace_cons (c := ']') rfl]

theorem readItems_more {ds : List Document} (hvalue : readValue fuel depth cs = some (d, ',' :: more))
    (hmore : skipSpace more = more) (hitems : readItems fuel depth more = some (ds, rest)) :
    readItems (fuel + 1) depth cs = some (d :: ds, rest) := by
  simp [readItems, hvalue, skipSpace_cons (c := ',') rfl, hmore, hitems]

theorem readMembers_last (key : String) (hcs : skipSpace cs = cs)
    (hvalue : readValue fuel depth cs = some (d, '}' :: rest)) :
    readMembers (fuel + 1) depth (quote key ++ ':' :: cs) = some (some [(key, d)], rest) := by
  simp [quote, readMembers, text?_quote, skipSpace_cons (c := ':') rfl, hcs, hvalue, skipSpace_cons (c := '}') rfl]

theorem readMembers_more (key : String) {ms : List (String × Document)} (hcs : skipSpace cs = cs)
    (hvalue : readValue fuel depth cs = some (d, ',' :: more)) (hmore : skipSpace more = more)
    (hmembers : readMembers fuel depth more = some (some ms, rest)) :
    readMembers (fuel + 1) depth (quote key ++ ':' :: cs) = some (some ((key, d) :: ms), rest) := by
  simp [quote, readMembers, text?_quote, skipSpace_cons (c := ':') rfl, hcs, hvalue, skipSpace_cons (c := ',') rfl, hmore,
    hmembers]

end Steps

/-- The text of a value is read as the value in front of anything that may stand behind it, with twice its length as
fuel. -/
def ReadsBack (j : Json) : Prop := ∀ {fuel depth : Nat} {rest : List Char}, 2 * j.compactChars.length ≤ fuel →
  depth + j.depth ≤ depthLimit → Ends rest →
    readValue (fuel + 1) depth (j.compactChars ++ rest) = some (j.document, rest)

theorem readsBack_int {n : Int} (hmin : -2 ^ 63 ≤ n) (hmax : n < 2 ^ 64) : ReadsBack (.number (.int n)) := by
  intro fuel depth rest _ _ hends
  have hliteral := literal?_toString n hends
  obtain ⟨c, cs, hn, hc⟩ := exists_toString n
  show readValue (fuel + 1) depth ((toString n).toList ++ rest) = some (.number (.int n), rest)
  rw [hn, List.cons_append] at hliteral ⊢
  simp [readValue_number hc, hliteral, number?_toDigits hmin hmax]

theorem readsBack_string (s : String) : ReadsBack (.string s) := by
  intro fuel depth rest _ _ _
  simp [compactChars, quote, readValue, text?_quote, document]

/-! ### Arrays and objects -/

theorem skipSpace_compactChars {j : Json} (h : j.Whole) (more : List Char) :
    skipSpace (j.compactChars ++ more) = j.compactChars ++ more := by
  obtain ⟨c, cs, hj, hspace, -⟩ := h.exists_compactChars
  rw [hj, List.cons_append, skipSpace_cons hspace]

theorem compactItems_cons (j : Json) {items : List Json} (h : items ≠ []) :
    compactItems (j :: items) = j.compactChars ++ ',' :: compactItems items := by
  cases items with
  | nil => exact absurd rfl h
  | cons _ _ => rfl

theorem compactMembers_cons (key : String) (j : Json) {members : List (String × Json)} (h : members ≠ []) :
    compactMembers ((key, j) :: members) = quote key ++ ':' :: j.compactChars ++ ',' :: compactMembers members := by
  cases members with
  | nil => exact absurd rfl h
  | cons _ _ => rfl

/-- The text of items begins as the text of the first. -/
theorem exists_compactItems {items : List Json} (hne : items ≠ []) (h : ∀ j ∈ items, j.Whole) :
    ∃ c cs, compactItems items = c :: cs ∧ isSpace c = false ∧ c ≠ ']' := by
  obtain ⟨j, items, rfl⟩ := List.exists_cons_of_ne_nil hne
  obtain ⟨c, cs, hj, hc⟩ := (h j List.mem_cons_self).exists_compactChars
  by_cases hrest : items = []
  · subst hrest
    exact ⟨c, cs, hj, hc⟩
  · exact ⟨c, cs ++ ',' :: compactItems items, by rw [compactItems_cons j hrest, hj, List.cons_append], hc⟩

theorem exists_compactMembers {members : List (String × Json)} (hne : members ≠ []) :
    ∃ cs, compactMembers members = '"' :: cs := by
  obtain ⟨⟨key, j⟩, members, rfl⟩ := List.exists_cons_of_ne_nil hne
  cases members <;> exact ⟨_, rfl⟩

variable {fuel depth : Nat} {rest : List Char}

theorem readItems_compactItems {items : List Json} (hne : items ≠ []) (hwhole : ∀ j ∈ items, j.Whole)
    (hback : ∀ j ∈ items, ReadsBack j) (hfuel : 2 * (compactItems items).length + 2 ≤ fuel)
    (hdepth : depth + depths items ≤ depthLimit) :
    readItems fuel depth (compactItems items ++ ']' :: rest) = some (documents items, rest) := by
  induction items generalizing fuel with
  | nil => exact absurd rfl hne
  | cons j items ih =>
    obtain ⟨fuel, rfl⟩ := Nat.exists_eq_add_of_le' (show 2 ≤ fuel by omega)
    obtain ⟨hj, hback⟩ := List.forall_mem_cons.1 hback
    obtain ⟨-, hwhole⟩ := List.forall_mem_cons.1 hwhole
    rw [depths] at hdepth
    by_cases hrest : items = []
    · subst hrest
      rw [compactItems] at hfuel ⊢
      exact readItems_last (hj (by omega) (by omega) (ends_cons (.inr (.inl rfl)) rest))
    · rw [compactItems_cons j hrest] at hfuel ⊢
      rw [List.length_append, List.length_cons] at hfuel
      rw [List.append_assoc, List.cons_append]
      obtain ⟨c, cs, hcs, hspace, -⟩ := exists_compactItems hrest hwhole
      refine readItems_more (hj (by omega) (by omega) (ends_cons (.inl rfl) _)) ?_
        (ih hrest hwhole hback (by omega) (by omega))
      rw [hcs, List.cons_append, skipSpace_cons hspace]

theorem readsBack_array {items : List Json} (hwhole : ∀ j ∈ items, j.Whole) (hback : ∀ j ∈ items, ReadsBack j) :
    ReadsBack (.array items) := by
  intro fuel depth rest hfuel hdepth _
  rw [compactChars, List.length_append, List.length_cons, List.length_singleton] at hfuel
  rw [Json.depth] at hdepth
  have hbounded (d : Document) : bounded depth d = d := if_pos (by omega)
  by_cases hne : items = []
  · subst hne
    simp [compactChars, compactItems, readValue, skipSpace_cons (c := ']') rfl, hbounded, document, documents]
  · have hitems : readItems fuel (depth + 1) (compactItems items ++ ']' :: rest) = some (documents items, rest) :=
      readItems_compactItems hne hwhole hback (by omega) (by omega)
    obtain ⟨c, cs, hcs, hspace, hclose⟩ := exists_compactItems hne hwhole
    rw [hcs, List.cons_append] at hitems
    simp [compactChars, hcs, readValue, skipSpace_cons hspace, hclose, hitems, hbounded, document]

theorem readMembers_compactMembers {members : List (String × Json)} (hne : members ≠ [])
    (hwhole : ∀ e ∈ members, e.2.Whole) (hback : ∀ e ∈ members, ReadsBack e.2)
    (hfuel : 2 * (compactMembers members).length + 2 ≤ fuel) (hdepth : depth + memberDepths members ≤ depthLimit) :
    readMembers fuel depth (compactMembers members ++ '}' :: rest) = some (some (memberDocuments members), rest) := by
  induction members generalizing fuel with
  | nil => exact absurd rfl hne
  | cons e members ih =>
    obtain ⟨key, j⟩ := e
    obtain ⟨fuel, rfl⟩ := Nat.exists_eq_add_of_le' (show 2 ≤ fuel by omega)
    obtain ⟨hj, hback⟩ : ReadsBack j ∧ ∀ e ∈ members, ReadsBack e.2 := List.forall_mem_cons.1 hback
    obtain ⟨hvalue, hwhole⟩ : j.Whole ∧ ∀ e ∈ members, e.2.Whole := List.forall_mem_cons.1 hwhole
    rw [memberDepths] at hdepth
    by_cases hrest : members = []
    · subst hrest
      rw [compactMembers] at hfuel ⊢
      rw [List.length_append, List.length_cons] at hfuel
      rw [List.append_assoc, List.cons_append]
      exact readMembers_last key (skipSpace_compactChars hvalue _)
        (hj (by omega) (by omega) (ends_cons (.inr (.inr rfl)) rest))
    · rw [compactMembers_cons key j hrest] at hfuel ⊢
      simp only [List.length_append, List.length_cons] at hfuel
      rw [List.append_assoc, List.append_assoc, List.cons_append, List.cons_append]
      obtain ⟨cs, hcs⟩ := exists_compactMembers hrest
      refine readMembers_more key (skipSpace_compactChars hvalue _)
        (hj (by omega) (by omega) (ends_cons (.inl rfl) _)) ?_ (ih hrest hwhole hback (by omega) (by omega))
      rw [hcs, List.cons_append, skipSpace_cons rfl]

theorem readsBack_object {members : List (String × Json)} (hwhole : ∀ e ∈ members, e.2.Whole)
    (hback : ∀ e ∈ members, ReadsBack e.2) : ReadsBack (.object members) := by
  intro fuel depth rest hfuel hdepth _
  rw [compactChars, List.length_append, List.length_cons, List.length_singleton] at hfuel
  rw [Json.depth] at hdepth
  have hbounded (d : Document) : bounded depth d = d := if_pos (by omega)
  by_cases hne : members = []
  · subst hne
    simp [compactChars, compactMembers, readValue, skipSpace_cons (c := '}') rfl, hbounded, document, memberDocuments]
  · have hmembers : readMembers fuel (depth + 1) (compactMembers members ++ '}' :: rest) =
        some (some (memberDocuments members), rest) := readMembers_compactMembers hne hwhole hback (by omega) (by omega)
    obtain ⟨cs, hcs⟩ := exists_compactMembers hne
    rw [hcs, List.cons_append] at hmembers
    simp [compactChars, hcs, readValue, skipSpace_cons (c := '"') rfl, hmembers, hbounded, document]

/-- The text of a value is read back wherever it stands. -/
theorem readsBack_of_whole {j : Json} (h : j.Whole) : ReadsBack j := by
  induction h with
  | null => exact fun _ _ _ => rfl
  | bool b => cases b <;> exact fun _ _ _ => rfl
  | int hmin hmax => exact readsBack_int hmin hmax
  | string s => exact readsBack_string s
  | array h ih => exact readsBack_array h ih
  | object h ih => exact readsBack_object h ih

/-- A value is read back from its compact form. -/
theorem read_compact {j : Json} (h : j.Within depthLimit) : read j.compact = some j.document := by
  obtain ⟨hwhole, hdepth⟩ := h
  have hvalue : readValue (2 * j.compactChars.length + 1) 0 (j.compactChars ++ []) = some (j.document, []) :=
    readsBack_of_whole hwhole (Nat.le_refl _) (by omega) ends_nil
  have hskip := skipSpace_compactChars hwhole []
  rw [List.append_nil] at hvalue hskip
  rw [read, compact, String.toList_ofList, readChars, hskip, hvalue]
  rfl

end Document

end EnergyGateway
