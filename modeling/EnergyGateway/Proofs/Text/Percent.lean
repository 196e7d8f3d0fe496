import Mathlib.Data.List.Basic
import Mathlib.Data.List.Flatten
import EnergyGateway.Json.Reader
import EnergyGateway.Text.Percent

/-!
# Percent-encoding can be undone

Behind `%` two digits stand for a byte; any other character stands for the bytes of its UTF-8 form.  Whatever
characters are kept, an encoded text is decoded to the bytes of the text as long as `%` itself is not kept
(`percentDecode?_percentEncodeExcept`), and these bytes are those of one text only (`decodeText?_percentEncode`).  Where
`%` is kept, a text is read back only if it has none (`eq_of_decodeText?_percentEncodeExcept`).
-/

namespace EnergyGateway.Text

/-- The bytes that an encoded text stands for. -/
def percentDecode? : List Char → Option (List UInt8)
  | [] => some []
  | '%' :: high :: low :: rest => do
    let h ← Document.hexDigit? high
    let l ← Document.hexDigit? low
    return UInt8.ofNat (16 * h + l) :: (← percentDecode? rest)
  | '%' :: _ => none
  | c :: rest => (percentDecode? rest).map (String.utf8EncodeChar c ++ ·)

/-- The text whose UTF-8 form an encoded text stands for. -/
def decodeText? (cs : List Char) : Option String :=
  (percentDecode? cs).bind fun bytes => String.fromUTF8? bytes.toByteArray

/-! ### Digits and bytes -/

private theorem hexDigit?_hexUpper : ∀ n < 16, Document.hexDigit? (hexUpper n) = some n := by decide

private theorem isAlphanum_hexUpper : ∀ n < 16, (hexUpper n).isAlphanum := by decide

theorem percentDecode?_percentByte (b : UInt8) (rest : List Char) :
    percentDecode? (percentByte b ++ rest) = (percentDecode? rest).map (b :: ·) := by
  have hb := b.toNat_lt
  have hhigh := hexDigit?_hexUpper (b.toNat / 16) (by omega)
  have hlow := hexDigit?_hexUpper (b.toNat % 16) (by omega)
  have hbyte : UInt8.ofNat (16 * (b.toNat / 16) + b.toNat % 16) = b := by
    rw [Nat.div_add_mod, UInt8.ofNat_toNat]
  simp only [percentByte, List.cons_append, List.nil_append, percentDecode?, hhigh, hlow, Option.bind_eq_bind,
    Option.bind_some, hbyte]
  cases percentDecode? rest <;> rfl

theorem percentDecode?_flatMap_percentByte (bytes : List UInt8) (rest : List Char) :
    percentDecode? (bytes.flatMap percentByte ++ rest) = (percentDecode? rest).map (bytes ++ ·) := by
  induction bytes with
  | nil => simp
  | cons b bytes ih =>
    rw [List.flatMap_cons, List.append_assoc, percentDecode?_percentByte, ih, Option.map_map]
    rfl

theorem percentDecode?_cons {c : Char} (h : c ≠ '%') (rest : List Char) :
    percentDecode? (c :: rest) = (percentDecode? rest).map (String.utf8EncodeChar c ++ ·) := by
  rw [percentDecode?]
  · exact fun _ _ _ hc => absurd hc h
  · exact h

/-! ### Texts -/

/-- An encoded text stands for the bytes of the text, whatever follows it. -/
theorem percentDecode?_percentEncodeExcept {keep : Char → Bool} (hkeep : keep '%' = false) (cs rest : List Char) :
    percentDecode? (percentEncodeExcept keep cs ++ rest) =
      (percentDecode? rest).map (cs.flatMap String.utf8EncodeChar ++ ·) := by
  induction cs with
  | nil => simp [percentEncodeExcept]
  | cons c cs ih =>
    rw [percentEncodeExcept, List.flatMap_cons, List.append_assoc]
    change percentDecode? (_ ++ (percentEncodeExcept keep cs ++ rest)) = _
    cases hc : keep c with
    | true =>
      have hne : c ≠ '%' := by
        rintro rfl
        rw [hkeep] at hc
        cases hc
      rw [if_pos rfl, List.singleton_append, percentDecode?_cons hne, ih, Option.map_map]
      simp [Function.comp_def]
    | false =>
      rw [if_neg (by simp), percentChar, percentDecode?_flatMap_percentByte, ih, Option.map_map]
      simp [Function.comp_def]

/-- The bytes of a text are the UTF-8 form of no other text. -/
theorem fromUTF8?_eq_some_iff {bytes : List UInt8} {s : String} :
    String.fromUTF8? bytes.toByteArray = some s ↔ bytes = s.toList.flatMap String.utf8EncodeChar := by
  have hbytes : s.toByteArray = (s.toList.flatMap String.utf8EncodeChar).toByteArray := String.utf8Encode_toList.symm
  rw [String.fromUTF8?, ← List.toByteArray_inj, ← hbytes]
  constructor
  · intro h
    split at h
    · cases h
      rfl
    · cases h
  · intro h
    rw [h, dif_pos s.isValidUTF8]
    rfl

theorem decodeText?_eq_some_iff {cs : List Char} {s : String} :
    decodeText? cs = some s ↔ percentDecode? cs = some (s.toList.flatMap String.utf8EncodeChar) := by
  simp only [decodeText?, Option.bind_eq_some_iff, fromUTF8?_eq_some_iff, exists_eq_right]

/-- A text without `%` is read back, whatever characters are kept. -/
theorem decodeText?_percentEncodeExcept {keep : Char → Bool} {s : String} (h : '%' ∉ s.toList) :
    decodeText? (percentEncodeExcept keep s.toList) = some s := by
  have hsame : percentEncodeExcept keep s.toList = percentEncodeExcept (fun c => keep c && c != '%') s.toList := by
    refine List.flatMap_congr fun c hc => ?_
    have hne : c ≠ '%' := fun heq => h (heq ▸ hc)
    simp [hne]
  have hdecode := @percentDecode?_percentEncodeExcept (fun c => keep c && c != '%') (by simp) s.toList []
  rw [decodeText?_eq_some_iff, hsame]
  simpa [percentDecode?] using hdecode

/-! ### Lengths -/

private theorem hexDigit?_ascii {c : Char} {n : Nat} (h : Document.hexDigit? c = some n) :
    c.utf8Size = 1 ∧ c ≠ '%' := by
  have hrange : '0' ≤ c ∧ c ≤ 'f' := by
    unfold Document.hexDigit? at h
    split_ifs at h with hdigit hlower hupper
    · simp only [Char.isDigit, Bool.and_eq_true, decide_eq_true_eq] at hdigit
      exact ⟨hdigit.1, Char.le_trans hdigit.2 (by decide)⟩
    · exact ⟨Char.le_trans (by decide) hlower.1, hlower.2⟩
    · exact ⟨Char.le_trans (by decide) hupper.1, Char.le_trans hupper.2 (by decide)⟩
  refine ⟨?_, ?_⟩
  · rw [Char.utf8Size_eq_one_iff]
    exact Nat.le_trans (show c.toNat ≤ 'f'.toNat from hrange.2) (by decide)
  · rintro rfl
    exact absurd hrange.1 (by decide)

theorem length_percentDecode? {cs : List Char} {bytes : List UInt8} (h : percentDecode? cs = some bytes) :
    bytes.length + 2 * cs.count '%' = (cs.flatMap String.utf8EncodeChar).length := by
  have hmark : '%'.utf8Size = 1 := by decide
  fun_induction percentDecode? cs generalizing bytes with
  | case1 =>
    cases h
    rfl
  | case2 high low rest ih =>
    simp only [Option.bind_eq_bind, Option.bind_eq_some_iff, Option.pure_def, Option.some.injEq] at h
    obtain ⟨_, hhigh, _, hlow, bytes, hrest, rfl⟩ := h
    have hlength := ih hrest
    obtain ⟨hhigh, hne⟩ := hexDigit?_ascii hhigh
    obtain ⟨hlow, hne'⟩ := hexDigit?_ascii hlow
    simp only [List.length_cons, List.count_cons_self, List.count_cons_of_ne hne, List.count_cons_of_ne hne',
      List.flatMap_cons, List.length_append, String.length_utf8EncodeChar, hmark, hhigh, hlow]
    omega
  | case3 => cases h
  | case4 c rest _ hne ih =>
    obtain ⟨bytes, hrest, rfl⟩ := Option.map_eq_some_iff.1 h
    have hlength := ih hrest
    simp only [List.count_cons_of_ne hne, List.flatMap_cons, List.length_append]
    omega

private theorem percentByte_ascii (b : UInt8) :
    (percentByte b).count '%' = 1 ∧ ((percentByte b).flatMap String.utf8EncodeChar).length = 3 := by
  have hb := b.toNat_lt
  have hmark : '%'.utf8Size = 1 := by decide
  obtain ⟨hhigh, hne⟩ := hexDigit?_ascii (hexDigit?_hexUpper (b.toNat / 16) (by omega))
  obtain ⟨hlow, hne'⟩ := hexDigit?_ascii (hexDigit?_hexUpper (b.toNat % 16) (by omega))
  simp [percentByte, List.count_cons_of_ne, hne, hne', hmark, hhigh, hlow]

private theorem percentChar_ascii (c : Char) :
    (percentChar c).count '%' = c.utf8Size ∧
      ((percentChar c).flatMap String.utf8EncodeChar).length = 3 * c.utf8Size := by
  rw [← String.length_utf8EncodeChar, percentChar]
  induction String.utf8EncodeChar c with
  | nil => exact ⟨rfl, rfl⟩
  | cons b bytes ih =>
    obtain ⟨hcount, hlength⟩ := percentByte_ascii b
    simp only [List.flatMap_cons, List.flatMap_append, List.count_append, List.length_append, List.length_cons,
      hcount, hlength, ih]
    omega

/-- A byte that is encoded is two characters longer, and has a `%` more. -/
theorem length_percentEncodeExcept {keep : Char → Bool} (hkeep : keep '%' = true) (cs : List Char) :
    ((percentEncodeExcept keep cs).flatMap String.utf8EncodeChar).length + 2 * cs.count '%' =
      (cs.flatMap String.utf8EncodeChar).length + 2 * (percentEncodeExcept keep cs).count '%' := by
  induction cs with
  | nil => rfl
  | cons c cs ih =>
    rw [percentEncodeExcept] at ih
    rw [percentEncodeExcept, List.flatMap_cons, List.flatMap_append, List.length_append, List.count_append]
    cases hc : keep c with
    | true =>
      rw [if_pos rfl, List.flatMap_singleton, ← List.singleton_append, List.count_append, List.flatMap_append,
        List.flatMap_singleton, List.length_append]
      omega
    | false =>
      have hne : c ≠ '%' := by
        rintro rfl
        rw [hkeep] at hc
        cases hc
      obtain ⟨hcount, hlength⟩ := percentChar_ascii c
      rw [if_neg (by simp), hlength, hcount, List.count_cons_of_ne hne, List.flatMap_cons, List.length_append,
        String.length_utf8EncodeChar]
      omega

/-- Where `%` is kept, no part of a text is read back as the text itself, unless it is the whole text and free of
`%`. -/
theorem eq_of_decodeText?_percentEncodeExcept {keep : Char → Bool} (hkeep : keep '%' = true) {part : List Char}
    {s : String} (hpart : part.Sublist s.toList) (h : decodeText? (percentEncodeExcept keep part) = some s) :
    part = s.toList ∧ '%' ∉ s.toList := by
  have hdecoded := length_percentDecode? (decodeText?_eq_some_iff.1 h)
  have hencoded := length_percentEncodeExcept hkeep part
  have hbytes := hpart.flatMap String.utf8EncodeChar
  have hle := hbytes.length_le
  have hcount : part.count '%' = 0 := by omega
  have heq : part.flatMap String.utf8EncodeChar = s.toList.flatMap String.utf8EncodeChar :=
    hbytes.eq_of_length (by omega)
  have hwhole : String.ofList part = s :=
    Option.some.inj ((fromUTF8?_eq_some_iff.2 (by simp)).symm.trans (fromUTF8?_eq_some_iff.2 heq))
  rw [← hwhole, String.toList_ofList]
  exact ⟨rfl, List.count_eq_zero.1 hcount⟩

theorem decodeText?_percentEncode (s : String) : decodeText? (percentEncode s.toList) = some s := by
  have hdecode := @percentDecode?_percentEncodeExcept isUnreserved rfl s.toList []
  rw [decodeText?_eq_some_iff, percentEncode]
  simpa [percentDecode?] using hdecode

/-! ### Characters -/

private theorem mem_percentByte {c : Char} {b : UInt8} (h : c ∈ percentByte b) : c = '%' ∨ c.isAlphanum := by
  have hb := b.toNat_lt
  simp only [percentByte, List.mem_cons, List.not_mem_nil, or_false] at h
  rcases h with rfl | rfl | rfl
  · exact .inl rfl
  · exact .inr (isAlphanum_hexUpper _ (by omega))
  · exact .inr (isAlphanum_hexUpper _ (by omega))

/-- An encoded text consists of letters and digits of ASCII, the four marks and `%`. -/
theorem mem_percentEncode {c : Char} {cs : List Char} (h : c ∈ percentEncode cs) :
    c.isAlphanum ∨ c ∈ ['-', '_', '.', '~', '%'] := by
  obtain ⟨d, -, hc⟩ := List.mem_flatMap.1 h
  split at hc
  · rename_i hkeep
    rw [List.mem_singleton.1 hc]
    simp only [isUnreserved, Bool.or_eq_true, beq_iff_eq] at hkeep
    rcases hkeep with (((h | rfl) | rfl) | rfl) | rfl
    · exact .inl h
    all_goals simp
  · obtain ⟨b, -, hc⟩ := List.mem_flatMap.1 hc
    rcases mem_percentByte hc with rfl | h
    · simp
    · exact .inl h

end EnergyGateway.Text
