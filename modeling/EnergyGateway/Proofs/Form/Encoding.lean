import EnergyGateway.Form
import EnergyGateway.Proofs.Text.Percent
import EnergyGateway.Text.Ascii

/-!
# The body of a request says exactly the fields of a form

Split at every `&`, each piece at its first `=`, and decoded, the body of a form with fields is the list of these
fields.  Names and values cannot add a field, since neither mark is left in them (`Form.decode?_encode_and_count`).
-/

namespace EnergyGateway.Form

/-- The field that a piece of a body stands for. -/
def decodeField? (piece : List Char) : Option (String × String) := do
  let (key, value) ← Text.cut? '=' piece
  return (← Text.decodeText? key, ← Text.decodeText? value)

/-- The fields that a body stands for. -/
def decode? (body : String) : Option (List (String × String)) := (body.toList.splitOn '&').mapM decodeField?

/-! ### One field -/

private theorem not_mem_percentEncode {c : Char} (hc : c = '&' ∨ c = '=') (cs : List Char) :
    c ∉ Text.percentEncode cs := by
  intro h
  have := Text.mem_percentEncode h
  rcases hc with rfl | rfl <;> simp at this

theorem decodeField?_encodeField (field : String × String) : decodeField? (encodeField field) = some field := by
  have hcut : Text.cut? '=' (encodeField field) =
      some (Text.percentEncode field.1.toList, Text.percentEncode field.2.toList) :=
    Text.cut?_eq_some_iff.2 ⟨rfl, not_mem_percentEncode (.inr rfl) field.1.toList⟩
  rw [decodeField?, hcut]
  simp [Text.decodeText?_percentEncode]

private theorem mem_encodeField {c : Char} {field : String × String} (h : c ∈ encodeField field) :
    c = '=' ∨ c.isAlphanum ∨ c ∈ ['-', '_', '.', '~', '%'] := by
  rcases List.mem_append.1 h with h | h
  · exact .inr (Text.mem_percentEncode h)
  · exact (List.mem_cons.1 h).imp_right Text.mem_percentEncode

private theorem count_ampersand_encodeField (field : String × String) : (encodeField field).count '&' = 0 := by
  have hfree := not_mem_percentEncode (.inl rfl)
  simp [encodeField, List.count_eq_zero_of_not_mem (hfree _)]

private theorem count_equals_encodeField (field : String × String) : (encodeField field).count '=' = 1 := by
  have hfree := not_mem_percentEncode (.inr rfl)
  simp [encodeField, List.count_eq_zero_of_not_mem (hfree _)]

/-! ### All fields -/

private theorem mem_intercalate {c sep : Char} {pieces : List (List Char)} (h : c ∈ [sep].intercalate pieces) :
    c = sep ∨ ∃ piece ∈ pieces, c ∈ piece := by
  induction pieces with
  | nil => simp at h
  | cons piece pieces ih =>
    cases pieces with
    | nil => exact .inr ⟨piece, List.mem_cons_self, by simpa using h⟩
    | cons next pieces =>
      rw [List.intercalate_cons_cons, List.append_assoc, List.mem_append, List.singleton_append, List.mem_cons] at h
      rcases h with h | h | h
      · exact .inr ⟨piece, List.mem_cons_self, h⟩
      · exact .inl h
      · exact (ih h).imp_right fun ⟨p, hp, hc⟩ => ⟨p, List.mem_cons_of_mem _ hp, hc⟩

/-- The separators stand between the pieces. -/
private theorem count_intercalate (c sep : Char) {n : Nat} {pieces : List (List Char)}
    (h : ∀ piece ∈ pieces, piece.count c = n) :
    ([sep].intercalate pieces).count c = n * pieces.length + if sep = c then pieces.length - 1 else 0 := by
  induction pieces with
  | nil => simp
  | cons piece pieces ih =>
    obtain ⟨hpiece, hpieces⟩ := List.forall_mem_cons.1 h
    cases pieces with
    | nil => simp [hpiece]
    | cons next pieces =>
      rw [List.intercalate_cons_cons, List.count_append, List.count_append, ih hpieces, hpiece]
      by_cases hc : sep = c
      · simp [hc, Nat.mul_add]
        omega
      · simp [hc, Nat.mul_add]
        omega

/-- The body of a form with fields is decoded to these fields.  It consists of letters and digits of ASCII, the
marks that stand for themselves, `%`, one `=` for each field and one `&` between two fields. -/
theorem decode?_encode_and_count (f : Form) (h : f.fields ≠ []) :
    decode? f.encode = some f.fields ∧
    (∀ c ∈ f.encode.toList, c.isAlphanum ∨ c ∈ ['-', '_', '.', '~', '%', '&', '=']) ∧
    f.encode.toList.count '&' = f.fields.length - 1 ∧
    f.encode.toList.count '=' = f.fields.length := by
  have hbody : f.encode.toList = ['&'].intercalate (f.fields.map encodeField) := by
    rw [encode, String.toList_ofList]
  have hampersand : ∀ piece ∈ f.fields.map encodeField, piece.count '&' = 0 :=
    List.forall_mem_map.2 fun field _ => count_ampersand_encodeField field
  have hequals : ∀ piece ∈ f.fields.map encodeField, piece.count '=' = 1 :=
    List.forall_mem_map.2 fun field _ => count_equals_encodeField field
  rw [decode?, hbody]
  refine ⟨?_, fun c hc => ?_, ?_, ?_⟩
  · have hinverse : decodeField? ∘ encodeField = pure := funext decodeField?_encodeField
    rw [List.splitOn_intercalate '&' (fun piece hp => List.count_eq_zero.1 (hampersand piece hp)) (by simpa using h),
      List.mapM_map, hinverse, List.mapM_pure, List.map_id']
    rfl
  · rcases mem_intercalate hc with rfl | ⟨piece, hpiece, hc⟩
    · simp
    · obtain ⟨field, -, rfl⟩ := List.mem_map.1 hpiece
      rcases mem_encodeField hc with rfl | hc | hc
      · simp
      · exact .inl hc
      · exact .inr (List.Sublist.subset (by decide) hc)
  · simp [count_intercalate '&' '&' hampersand]
  · simp [count_intercalate '=' '&' hequals]

/-- A form with a name that looks like more fields, a repeated key, and empty texts. -/
private def deceptive : Form :=
  ⟨[("alias", "a&delete=true"), ("alias", "100 %\n"), ("", "größer, ✓"), ("portName", "")]⟩

theorem decode?_encode_deceptive :
    deceptive.fields ≠ [] ∧ decode? deceptive.encode = some deceptive.fields ∧
    deceptive.encode.toList.count '&' = 3 ∧ deceptive.encode.toList.count '=' = 4 := by
  have hfields : deceptive.fields ≠ [] := List.cons_ne_nil _ _
  obtain ⟨hdecode, -, hampersand, hequals⟩ := decode?_encode_and_count deceptive hfields
  exact ⟨hfields, hdecode, hampersand, hequals⟩

end EnergyGateway.Form
