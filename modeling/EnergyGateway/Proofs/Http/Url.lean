import Mathlib.Data.List.DropRight
import EnergyGateway.Proofs.Http.Path

/-!
# Addresses under a base

The addresses of an API are read in two parts: what stands in front of `/api/` comes to the same in all of them
(`parse?_api`), and of what stands behind, the end may not count, and `#` and `?` cut the path.  So a text at the end of
an address adds a segment that is read as the text just if it is plain (`Stem.isEntry_iff`).
-/

namespace EnergyGateway.Url

open Text

/-! ### The first character that fails -/

section While

variable {α : Type} {p : α → Bool} {c : α}

theorem dropWhile_append_cons (h : p c = false) (a b : List α) :
    (a ++ c :: b).dropWhile p = a.dropWhile p ++ c :: b := by
  rw [List.dropWhile_append]
  split
  · rename_i hempty
    rw [List.isEmpty_iff.1 hempty, List.dropWhile_cons, h]
    rfl
  · rfl

theorem takeWhile_append_cons (h : p c = false) (a b : List α) :
    (a ++ c :: b).takeWhile p = a.takeWhile p := by
  induction a with
  | nil => simp [h]
  | cons d a ih => simp only [List.cons_append, List.takeWhile_cons, ih]

theorem rdropWhile_append_cons (h : p c = false) (a b : List α) :
    (a ++ c :: b).rdropWhile p = a ++ c :: b.rdropWhile p := by
  simp [List.rdropWhile, dropWhile_append_cons h]

theorem mem_dropWhile_iff (h : p c = false) {l : List α} : c ∈ l.dropWhile p ↔ c ∈ l := by
  refine ⟨(List.dropWhile_sublist p).mem, fun hc => ?_⟩
  obtain ⟨a, b, rfl⟩ := List.append_of_mem hc
  rw [dropWhile_append_cons h]
  exact List.mem_append_right _ List.mem_cons_self

/-- What comes behind a character that fails does not matter. -/
theorem takeWhile_append_of_mem (h : p c = false) {a : List α} (hc : c ∈ a) (b : List α) :
    (a ++ b).takeWhile p = a.takeWhile p := by
  obtain ⟨front, back, rfl⟩ := List.append_of_mem hc
  rw [List.append_assoc, List.cons_append, takeWhile_append_cons h, takeWhile_append_cons h]

end While

/-! ### What is read of a text -/

/-- Blanks and control characters, which do not count around an address. -/
def isMargin (c : Char) : Bool := c.toNat ≤ 0x20

/-- What counts inside an address. -/
def isKept (c : Char) : Bool := c ∉ ['\t', '\n', '\r']

/-- What counts of a text that an address begins with. -/
def front (cs : List Char) : List Char := (cs.dropWhile isMargin).filter isKept

/-- What counts of a text that an address ends with. -/
def back (cs : List Char) : List Char := (cs.rdropWhile isMargin).filter isKept

/-- What is sent of the text behind the authority. -/
def sentPart (cs : List Char) : List Char := cs.takeWhile (· != '#')

def pathPart (cs : List Char) : List Char := (sentPart cs).takeWhile (· != '?')

def queryPart? (cs : List Char) : Option String :=
  match (sentPart cs).dropWhile (· != '?') with
  | _ :: q => some (String.ofList (percentEncodeExcept keptInQuery q))
  | [] => none

/-- What ends the authority. -/
def isEnd (c : Char) : Bool := isSlash c || c == '?' || c == '#'

theorem ofAuthority?_eq (secure : Bool) (cs : List Char) :
    ofAuthority? secure cs =
      if isAuthority ((cs.dropWhile isSlash).takeWhile (!isEnd ·)) then
        let rest := (cs.dropWhile isSlash).dropWhile (!isEnd ·)
        some ⟨secure, String.ofList ((cs.dropWhile isSlash).takeWhile (!isEnd ·)), pathSegments (pathPart rest),
          queryPart? rest⟩
      else none := rfl

theorem back_append_slash (a b : List Char) : back (a ++ '/' :: b) = a.filter isKept ++ '/' :: back b := by
  rw [back, rdropWhile_append_cons (by decide), List.filter_append]
  rfl

/-! ### Schemes -/

theorem behindScheme?_append_slash {scheme : String} (hscheme : '/' ∉ scheme.toList) (a b : List Char) :
    behindScheme? scheme (a ++ '/' :: b) = (behindScheme? scheme a).map (· ++ '/' :: b) := by
  by_cases hlength : scheme.length ≤ a.length
  · rw [behindScheme?, behindScheme?, List.take_append_of_le_length hlength, List.drop_append_of_le_length hlength]
    split <;> rfl
  · -- a scheme that is longer than the text reaches the slash
    have hslash : '/' ∈ (a ++ '/' :: b).take scheme.length := by
      rw [List.take_append, List.take_cons (by omega)]
      simp
    have hne : ((a ++ '/' :: b).take scheme.length).map Char.toLower ≠ scheme.toList := fun heq =>
      hscheme (heq ▸ List.mem_map_of_mem hslash)
    have hshort : (a.take scheme.length).map Char.toLower ≠ scheme.toList := fun heq => by
      have := congrArg List.length heq
      simp only [List.length_map, List.length_take, String.length_toList] at this
      omega
    rw [behindScheme?, behindScheme?, if_neg (by simpa using hne), if_neg (by simpa using hshort)]
    rfl

theorem mem_behindScheme?_iff {scheme : String} {c : Char} (hc : c.toLower ∉ scheme.toList) {a rest : List Char}
    (h : behindScheme? scheme a = some rest) : c ∈ rest ↔ c ∈ a := by
  unfold behindScheme? at h
  obtain ⟨heq, hrest⟩ := Option.ite_none_right_eq_some.1 h
  have hhead : c ∉ a.take scheme.length := fun hmem => hc (beq_iff_eq.1 heq ▸ List.mem_map_of_mem hmem)
  rw [← Option.some.inj hrest]
  conv_rhs => rw [← List.take_append_drop scheme.length a, List.mem_append]
  exact (or_iff_right hhead).symm

/-- Whether an address is secure, and what is behind its scheme. -/
def scheme? (cs : List Char) : Option (Bool × List Char) :=
  match behindScheme? "http:" cs with
  | some rest => some (false, rest)
  | none => (behindScheme? "https:" cs).map (true, ·)

theorem mem_scheme?_iff {c : Char} (hc : c = '#' ∨ c = '?') {cs rest : List Char} {secure : Bool}
    (h : scheme? cs = some (secure, rest)) : c ∈ rest ↔ c ∈ cs := by
  unfold scheme? at h
  split at h
  · rename_i hhttp
    cases h
    exact mem_behindScheme?_iff (by rcases hc with rfl | rfl <;> decide) hhttp
  · obtain ⟨_, hhttps, heq⟩ := Option.map_eq_some_iff.1 h
    cases heq
    exact mem_behindScheme?_iff (by rcases hc with rfl | rfl <;> decide) hhttps

theorem parse?_append_slash (a b : List Char) :
    parse? (String.ofList (a ++ '/' :: b)) =
      (scheme? (front a)).bind fun (secure, rest) => ofAuthority? secure (rest ++ '/' :: back b) := by
  have htrim : (((a ++ '/' :: b).dropWhile isMargin).rdropWhile isMargin).filter isKept = front a ++ '/' :: back b := by
    rw [dropWhile_append_cons (by decide), rdropWhile_append_cons (by decide), List.filter_append]
    rfl
  have hparse : parse? (String.ofList (a ++ '/' :: b)) =
      match behindScheme? "http:" (front a ++ '/' :: back b) with
      | some rest => ofAuthority? false rest
      | none => (behindScheme? "https:" (front a ++ '/' :: back b)).bind (ofAuthority? true) := by
    rw [← htrim, parse?, String.toList_ofList]
    rfl
  rw [hparse, behindScheme?_append_slash (by decide), behindScheme?_append_slash (by decide), scheme?]
  cases behindScheme? "http:" (front a) with
  | some rest => rfl
  | none => cases behindScheme? "https:" (front a) <;> rfl

/-! ### The addresses of an API -/

/-- What the text in front of `/api/` comes to in an address. -/
structure Stem where
  secure : Bool
  authority : List Char
  /-- The text between the authority and the last slash. -/
  text : List Char

/-- The address that a stem and the text behind it make. -/
def Stem.url (stem : Stem) (cs : List Char) : Url :=
  ⟨stem.secure, String.ofList stem.authority, pathSegments (pathPart (stem.text ++ '/' :: cs)),
    queryPart? (stem.text ++ '/' :: cs)⟩

/-- The text between the slashes in front of the authority and the last slash. -/
def unslashed (cs : List Char) : List Char := (cs ++ ['/']).dropWhile isSlash ++ ['a', 'p', 'i']

theorem dropWhile_isSlash_append (a b : List Char) :
    (a ++ '/' :: 'a' :: 'p' :: 'i' :: '/' :: b).dropWhile isSlash = unslashed a ++ '/' :: b := by
  rw [List.append_cons, dropWhile_append_cons (by decide), unslashed]
  simp

/-- The stem of the addresses that begin with a text. -/
def stem? (cs : List Char) : Option Stem :=
  (scheme? (front cs)).bind fun (secure, rest) =>
    let authority := (unslashed rest).takeWhile (!isEnd ·)
    if isAuthority authority then some ⟨secure, authority, (unslashed rest).dropWhile (!isEnd ·)⟩ else none

/-- The addresses of an API share their stem. -/
theorem parse?_api (base rest : List Char) :
    parse? (String.ofList (base ++ '/' :: 'a' :: 'p' :: 'i' :: '/' :: rest)) =
      (stem? base).map (·.url (back rest)) := by
  have hback : back ('a' :: 'p' :: 'i' :: '/' :: rest) = 'a' :: 'p' :: 'i' :: '/' :: back rest :=
    back_append_slash ['a', 'p', 'i'] rest
  rw [parse?_append_slash, hback, stem?]
  rcases scheme? (front base) with _ | ⟨secure, behind⟩
  · rfl
  · dsimp only [Option.bind_some]
    rw [ofAuthority?_eq, dropWhile_isSlash_append, takeWhile_append_cons (by decide),
      dropWhile_append_cons (by decide)]
    dsimp only
    split <;> rfl

/-- The characters that end a path are those of the base. -/
theorem mem_stem?_iff {base : List Char} {stem : Stem} (h : stem? base = some stem) {c : Char}
    (hc : c = '#' ∨ c = '?') : c ∈ stem.text ↔ c ∈ base := by
  obtain ⟨⟨secure, rest⟩, hscheme, h⟩ := Option.bind_eq_some_iff.1 h
  obtain ⟨-, hstem⟩ := Option.ite_none_right_eq_some.1 h
  cases Option.some.inj hstem
  obtain ⟨hmargin, hkept, hslash, hends, hletters, hmark⟩ : isMargin c = false ∧ isKept c ∧ isSlash c = false ∧
      (!isEnd c) = false ∧ c ∉ ['a', 'p', 'i'] ∧ c ∉ ['/'] := by
    rcases hc with rfl | rfl <;> decide
  calc c ∈ (unslashed rest).dropWhile (!isEnd ·)
      ↔ c ∈ unslashed rest := mem_dropWhile_iff (p := (!isEnd ·)) hends
    _ ↔ c ∈ rest := by
      rw [unslashed, List.mem_append, or_iff_left hletters, mem_dropWhile_iff hslash, List.mem_append,
        or_iff_left hmark]
    _ ↔ c ∈ front base := mem_scheme?_iff hc hscheme
    _ ↔ c ∈ base := by rw [front, List.mem_filter, and_iff_left hkept, mem_dropWhile_iff hmargin]

/-! ### Plain texts -/

/-- Whether an address means a text by itself when it ends with it: it has no character of its own meaning, ends in
none that does not count, and is no dots. -/
def IsPlain (s : String) : Prop :=
  (∀ c ∈ s.toList, c ∉ ['/', '\\', '%', '?', '#', '\t', '\n', '\r']) ∧ (∀ c ∈ s.toList.getLast?, ' ' < c) ∧
    s ≠ "." ∧ s ≠ ".."

instance (s : String) : Decidable (IsPlain s) :=
  @instDecidableAnd _ _ (List.decidableBAll _ _) (@instDecidableAnd _ _ (Option.decidableForallMem _) inferInstance)

theorem IsPlain.not_mem {s : String} {c : Char} (h : IsPlain s)
    (hc : c ∈ ['/', '\\', '%', '?', '#', '\t', '\n', '\r']) : c ∉ s.toList := fun hmem => h.1 c hmem hc

theorem pathPart_sublist (cs : List Char) : (pathPart cs).Sublist cs :=
  (List.takeWhile_sublist _).trans (List.takeWhile_sublist _)

theorem back_sublist (cs : List Char) : (back cs).Sublist cs :=
  List.filter_sublist.trans (List.rdropWhile_prefix _ _).sublist

section append

variable {a : List Char}

theorem sentPart_append (h : '#' ∉ a) (b : List Char) : sentPart (a ++ b) = a ++ sentPart b :=
  List.takeWhile_append_of_pos fun c hc => by
    rw [bne_iff_ne]
    exact ne_of_mem_of_not_mem hc h

theorem pathPart_append (hhash : '#' ∉ a) (hquestion : '?' ∉ a) (b : List Char) :
    pathPart (a ++ b) = a ++ pathPart b := by
  rw [pathPart, sentPart_append hhash]
  exact List.takeWhile_append_of_pos fun c hc => by
    rw [bne_iff_ne]
    exact ne_of_mem_of_not_mem hc hquestion

theorem pathPart_append_of_mem (h : '#' ∈ a ∨ '?' ∈ a) (b : List Char) : pathPart (a ++ b) = pathPart a := by
  by_cases hhash : '#' ∈ a
  · rw [pathPart, sentPart, takeWhile_append_of_mem (by decide) hhash]
    rfl
  · have hquestion := h.resolve_left hhash
    have hself : sentPart a = a := by simpa [sentPart] using sentPart_append hhash []
    rw [pathPart, sentPart_append hhash, takeWhile_append_of_mem (by decide) hquestion, pathPart, hself]

theorem queryPart?_of_not_mem (h : '?' ∉ a) : queryPart? a = none := by
  have hsent : (sentPart a).dropWhile (· != '?') = [] := by
    rw [List.dropWhile_eq_nil_iff]
    intro c hc
    rw [bne_iff_ne]
    exact ne_of_mem_of_not_mem ((List.takeWhile_sublist _).mem hc) h
  rw [queryPart?, hsent]

end append

/-- Nothing of a text is left out just if it has no character of its own meaning and its end counts. -/
theorem pathPart_back_eq_iff {cs : List Char} :
    pathPart (back cs) = cs ↔
      (∀ c ∈ cs, c ∉ ['?', '#', '\t', '\n', '\r']) ∧ ∀ c ∈ cs.getLast?, ' ' < c := by
  constructor
  · intro h
    refine ⟨fun c hc => ?_, fun c hc => ?_⟩
    · rw [← h] at hc
      have hquestion := List.mem_takeWhile_imp hc
      have hsent := (List.takeWhile_sublist _).mem hc
      have hhash := List.mem_takeWhile_imp hsent
      have hkept := (List.mem_filter.1 ((List.takeWhile_sublist _).mem hsent)).2
      simp only [bne_iff_ne] at hquestion hhash
      simp only [isKept, decide_eq_true_eq] at hkept
      exact List.not_mem_cons_of_ne_of_not_mem hquestion (List.not_mem_cons_of_ne_of_not_mem hhash hkept)
    · have hwhole : cs.Sublist (cs.rdropWhile isMargin) := by
        conv_lhs => rw [← h]
        exact (pathPart_sublist _).trans List.filter_sublist
      have hself := (List.rdropWhile_prefix isMargin cs).sublist.antisymm hwhole
      obtain ⟨hne, rfl⟩ := List.mem_getLast?_eq_getLast hc
      have hmargin := List.rdropWhile_eq_self_iff.1 hself hne
      simp only [isMargin, decide_eq_true_eq, not_le] at hmargin
      exact hmargin
  · rintro ⟨hchars, hlast⟩
    have hback : back cs = cs := by
      have hself : cs.rdropWhile isMargin = cs := List.rdropWhile_eq_self_iff.2 fun hne hmargin => by
        have hlt := hlast _ (List.getLast?_eq_getLast_of_ne_nil hne)
        simp only [isMargin, decide_eq_true_eq] at hmargin
        exact absurd hmargin (not_le.2 hlt)
      rw [back, hself, List.filter_eq_self]
      intro c hc
      have hne := hchars c hc
      simp only [List.mem_cons, not_or] at hne
      simp [isKept, hne]
    have hhash : '#' ∉ cs := fun hc => hchars _ hc (by decide)
    have hquestion : '?' ∉ cs := fun hc => hchars _ hc (by decide)
    rw [hback, ← List.append_nil cs, pathPart_append hhash hquestion]
    rfl

theorem isPlain_iff {s : String} : IsPlain s ↔ pathPart (back s.toList) = s.toList ∧ IsName s := by
  rw [pathPart_back_eq_iff, IsPlain, IsName]
  grind

theorem IsPlain.back_eq {s : String} (h : IsPlain s) : back s.toList = s.toList := by
  have hwhole := (isPlain_iff.1 h).1
  refine (back_sublist _).antisymm ?_
  conv_lhs => rw [← hwhole]
  exact pathPart_sublist _

theorem IsPlain.back_append_slash {s : String} (h : IsPlain s) (rest : List Char) :
    back (s.toList ++ '/' :: rest) = s.toList ++ '/' :: back rest := by
  have hkept : s.toList.filter isKept = s.toList := by
    conv_lhs => rw [← h.back_eq, back, List.filter_filter]
    simpa [back] using h.back_eq
  rw [Url.back_append_slash, hkept]

/-! ### Entries -/

/-- Whether an address is that of an entry of a collection: it goes on from the collection by one segment, which is
read as the id. -/
def IsEntry (u collection : Url) (id : String) : Prop :=
  ∃ segment, u = { collection with segments := collection.segments ++ [segment] } ∧
    decodeText? segment.toList = some id

theorem IsEntry.id_eq {u collection : Url} {id id' : String} (h : u.IsEntry collection id)
    (h' : u.IsEntry collection id') : id = id' := by
  obtain ⟨segment, hu, hid⟩ := h
  obtain ⟨segment', hu', hid'⟩ := h'
  have hsegments := List.append_cancel_left (congrArg Url.segments (hu.symm.trans hu'))
  rw [List.singleton_inj.1 hsegments] at hid
  exact Option.some.inj (hid.symm.trans hid')

namespace Stem

variable {stem : Stem}

theorem not_isEntry (h : '#' ∈ stem.text ∨ '?' ∈ stem.text) (a b : List Char) (id : String) :
    ¬(stem.url b).IsEntry (stem.url a) id := by
  rintro ⟨segment, hu, -⟩
  have hsegments := congrArg Url.segments hu
  simp only [url, pathPart_append_of_mem h] at hsegments
  simpa using congrArg List.length hsegments

section marks

variable (hhash : '#' ∉ stem.text) (hquestion : '?' ∉ stem.text) {name : String} (hname : IsPlain name)
include hquestion

theorem query_url {cs : List Char} (h : '?' ∉ cs) : (stem.url cs).query = none := by
  refine queryPart?_of_not_mem ?_
  simp [hquestion, h]

include hhash hname

/-- The segments of a collection, and those of what is under it. -/
theorem exists_segments_url :
    ∃ done, (stem.url name.toList).segments = done.map String.ofList ∧
      ∀ rest, (stem.url (name.toList ++ '/' :: rest)).segments =
        (resolveDots done (encodedParts (pathPart rest))).map String.ofList := by
  have hmark {c : Char} (hc : c = '#' ∨ c = '?') (htext : c ∉ stem.text) : c ∉ stem.text ++ '/' :: name.toList := by
    have hslash : c ≠ '/' := by rcases hc with rfl | rfl <;> decide
    have hmem : c ∉ name.toList := hname.not_mem (by rcases hc with rfl | rfl <;> decide)
    simp [htext, hslash, hmem]
  have hpath (rest : List Char) : pathPart (stem.text ++ '/' :: (name.toList ++ rest)) =
      stem.text ++ '/' :: (name.toList ++ pathPart rest) := by
    rw [← List.cons_append, ← List.append_assoc, pathPart_append (hmark (.inl rfl) hhash) (hmark (.inr rfl) hquestion),
      List.append_assoc, List.cons_append]
  obtain ⟨done, hdone, hrest⟩ := (isPlain_iff.1 hname).2.exists_pathSegments stem.text
  refine ⟨done, ?_, fun rest => ?_⟩
  · have hself := hpath []
    have hnil : pathPart [] = [] := rfl
    rw [hnil, List.append_nil] at hself
    exact (congrArg pathSegments hself).trans hdone
  · have hslash : pathPart ('/' :: rest) = '/' :: pathPart rest :=
      pathPart_append (a := ['/']) (by decide) (by decide) rest
    rw [url, hpath, hslash]
    exact hrest _

/-- Under a base without `#` and `?`, the plain texts are those whose addresses are entries of a collection. -/
theorem isEntry_iff (id : String) :
    (stem.url (name.toList ++ '/' :: back id.toList)).IsEntry (stem.url name.toList) id ↔ IsPlain id := by
  obtain ⟨done, hdone, hrest⟩ := exists_segments_url hhash hquestion hname
  have hpart : (pathPart (back id.toList)).Sublist id.toList := (pathPart_sublist _).trans (back_sublist _)
  have hiff := resolveDots_encodedParts_iff hpart done
  rw [← isPlain_iff] at hiff
  rw [← hiff]
  constructor
  · rintro ⟨segment, hu, hid⟩
    refine ⟨segment.toList, ?_, hid⟩
    have hsegments := (hrest _).symm.trans (congrArg Url.segments hu)
    dsimp only at hsegments
    rw [hdone, ← String.ofList_toList (s := segment), ← List.map_singleton, ← List.map_append] at hsegments
    exact (List.map_inj_right fun _ _ => String.ofList_injective).1 hsegments
  · rintro ⟨segment, hresolve, hid⟩
    have hplain := hiff.1 ⟨segment, hresolve, hid⟩
    have hmem : '?' ∉ name.toList ++ '/' :: back id.toList := by
      have hback : '?' ∉ back id.toList := fun hc => hplain.not_mem (by decide) ((back_sublist _).mem hc)
      simp [hname.not_mem, hback]
    refine ⟨String.ofList segment, ?_, by rwa [String.toList_ofList]⟩
    have hsegments : (stem.url (name.toList ++ '/' :: back id.toList)).segments =
        (stem.url name.toList).segments ++ [String.ofList segment] := by
      rw [hrest, hresolve, List.map_append, List.map_singleton, hdone]
    have hquery := query_url hquestion hmem
    have hquery' := query_url hquestion (hname.not_mem (c := '?') (by decide))
    calc stem.url (name.toList ++ '/' :: back id.toList)
        = ⟨stem.secure, String.ofList stem.authority, (stem.url (name.toList ++ '/' :: back id.toList)).segments,
            (stem.url (name.toList ++ '/' :: back id.toList)).query⟩ := rfl
      _ = { stem.url name.toList with segments := (stem.url name.toList).segments ++ [String.ofList segment] } := by
        rw [hsegments, hquery, ← hquery']
        rfl

end marks

end Stem

end EnergyGateway.Url
