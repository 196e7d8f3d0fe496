/-!
# Letters without regard to case

Brand names and the words of the serial line settings are compared with the 26 letters of ASCII folded and every
other character as it stands.
-/

namespace EnergyGateway.Text

/-- Upper case for `a` to `z`; every other character is kept. -/
def upper (s : String) : String := String.ofList (s.toList.map Char.toUpper)

/-- Equality up to the case of ASCII letters. -/
def sameIgnoringCase (s t : String) : Bool :=
  s.toList.map Char.toLower == t.toList.map Char.toLower

/-- Whether `s` begins with `t`. -/
def startsWith (s t : String) : Bool := t.toList.isPrefixOf s.toList

/-- The part after the leading `t`, when `s` begins with it. -/
def after? (s t : String) : Option String :=
  if startsWith s t then some (String.ofList (s.toList.drop t.length)) else none

theorem after?_eq_some_iff {s t u : String} : after? s t = some u ↔ s = t ++ u := by
  have hstarts : startsWith s t = true ↔ t.toList <+: s.toList := List.isPrefixOf_iff_prefix
  rw [after?, Option.ite_none_right_eq_some, hstarts, List.prefix_iff_eq_append, ← String.length_toList]
  rw [Option.some.injEq]
  constructor
  · rintro ⟨htext, rfl⟩
    rw [← String.toList_inj, String.toList_append, String.toList_ofList, htext]
  · rintro rfl
    simp

/-- The texts before and after the first `c`. -/
def cut? (c : Char) : List Char → Option (List Char × List Char)
  | [] => none
  | d :: rest =>
    if d = c then some ([], rest) else (cut? c rest).map fun (before, behind) => (d :: before, behind)

/-- Where `cut?` cuts, the text is the two parts with `c` between them, and the first part has no `c`. -/
theorem cut?_eq_some_iff {c : Char} {cs a b : List Char} :
    cut? c cs = some (a, b) ↔ cs = a ++ c :: b ∧ c ∉ a := by
  induction cs generalizing a with
  | nil => simp [cut?]
  | cons d rest ih =>
    unfold cut?
    split
    · rename_i h
      subst h
      constructor
      · rintro ⟨⟩
        simp
      · rintro ⟨h, hn⟩
        cases a with
        | nil => simp_all
        | cons x a => simp_all
    · rename_i h
      simp only [Option.map_eq_some_iff, Prod.exists, Prod.mk.injEq]
      constructor
      · rintro ⟨x, y, hxy, rfl, rfl⟩
        obtain ⟨rfl, hn⟩ := ih.1 hxy
        simp [hn, Ne.symm h]
      · rintro ⟨heq, hn⟩
        cases a with
        | nil => simp_all
        | cons x a =>
          simp only [List.cons_append, List.cons.injEq] at heq
          obtain ⟨rfl, rfl⟩ := heq
          exact ⟨a, b, ih.2 ⟨rfl, fun hc => hn (List.mem_cons_of_mem _ hc)⟩, rfl, rfl⟩

end EnergyGateway.Text
