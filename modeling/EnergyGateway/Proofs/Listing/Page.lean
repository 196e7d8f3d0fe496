import EnergyGateway.Listing.Page
import EnergyGateway.Proofs.Json.Extent
import Mathlib.Data.List.Infix

/-!
# The list on a page

A page that assigns an object is read as the list in that object, entry by entry, unless `};` stands somewhere in
the text of the object, for instance in a name: then the object is cut there, what is left is no JSON text, and the
list is empty (`ofPage_assigned`).
-/

namespace EnergyGateway.Listing

/-! ### Where the object starts -/

/-- The assignment with the brace that opens the object. -/
private def opening : List Char := assignment ++ ['{']

/-- Two openings do not overlap, since only the last character of an opening is a brace. -/
private theorem opening_prefix_append {front rest : List Char} (hne : front ≠ [])
    (h : opening <+: front ++ (opening ++ rest)) : opening <:+: front := by
  by_cases hlen : opening.length ≤ front.length
  · exact (List.prefix_of_prefix_length_le h (List.prefix_append _ _) hlen).isInfix
  · have hpos := List.length_pos_iff.2 hne
    have hopening : opening.length = assignment.length + 1 := List.length_append
    obtain ⟨overlap, ho⟩ : front <+: opening :=
      List.prefix_of_prefix_length_le (List.prefix_append _ _) h (by omega)
    have hshort := congrArg List.length ho
    rw [List.length_append] at hshort
    -- the overlap lies in front of the brace and ends with it
    have hinside : overlap <+: assignment := by
      rw [← ho, List.prefix_append_right_inj, ho] at h
      have hov := List.prefix_of_prefix_length_le h (List.prefix_append opening rest) (by omega)
      exact List.prefix_of_prefix_length_le hov (List.prefix_append _ _) (by omega)
    have hends : overlap <:+ assignment ++ ['{'] := ⟨front, ho⟩
    rcases List.suffix_concat_iff.1 hends with rfl | ⟨inner, rfl, -⟩
    · rw [List.length_nil] at hshort
      omega
    · exact absurd (hinside.subset (List.mem_concat_self)) (by decide)

private theorem opening_prefix_of_assigned? {cs cut : List Char} (h : assigned? cs = some cut) : opening <+: cs := by
  unfold assigned? at h
  split at h
  · rename_i hassign
    obtain ⟨tail, rfl⟩ := List.isPrefixOf_iff_prefix.1 hassign
    rw [List.drop_left] at h
    split at h
    · rename_i tail
      exact ⟨tail, by simp [opening]⟩
    · cases h
  · cases h

private theorem assigned?_opening {rest cut : List Char} (h : upToBrace rest = some cut) :
    assigned? (opening ++ rest) = some ('{' :: cut) := by
  have happend : opening ++ rest = assignment ++ '{' :: rest := by simp [opening]
  have hassign : assignment.isPrefixOf (assignment ++ '{' :: rest) :=
    List.isPrefixOf_iff_prefix.2 (List.prefix_append _ _)
  rw [happend, assigned?, if_pos hassign, List.drop_left]
  simp [h]

/-- Behind a text without an opening, the first opening is where the object is found. -/
theorem embedded?_append {front rest cut : List Char} (hfront : ¬ assignment ++ ['{'] <:+: front)
    (hcut : upToBrace rest = some cut) :
    embedded? (front ++ (assignment ++ ['{'] ++ rest)) = some ('{' :: cut) := by
  induction front with
  | nil =>
    have hassigned := assigned?_opening hcut
    obtain ⟨c, tail, htail⟩ : ∃ c tail, opening ++ rest = c :: tail := ⟨_, _, rfl⟩
    rw [htail] at hassigned
    show embedded? (opening ++ rest) = _
    rw [htail, embedded?, hassigned, Option.some_or]
  | cons c front ih =>
    have hnone : assigned? (c :: (front ++ (opening ++ rest))) = none := by
      rw [Option.eq_none_iff_forall_ne_some]
      intro found h
      exact hfront (opening_prefix_append (List.cons_ne_nil c front) (opening_prefix_of_assigned? h))
    rw [List.cons_append, embedded?]
    refine (congrArg (Option.or · _) hnone).trans ?_
    rw [Option.none_or]
    exact ih fun h => hfront (h.trans (List.suffix_cons c front).isInfix)

/-! ### Where the object is taken to end -/

private theorem upToBrace_cons {c : Char} {cs : List Char} (hline : c ≠ '\n') (hc : ¬ ['}', ';'] <+: c :: cs) :
    upToBrace (c :: cs) = (upToBrace cs).map (c :: ·) := by
  rw [upToBrace]
  · rintro rest rfl rfl
    exact hc ⟨rest, rfl⟩
  · exact hline

private theorem closing_prefix_append {c : Char} {cs : List Char} (hcs : cs ≠ []) (more : List Char) :
    ['}', ';'] <+: c :: (cs ++ more) ↔ ['}', ';'] <+: c :: cs := by
  obtain ⟨d, cs, rfl⟩ := List.exists_cons_of_ne_nil hcs
  simp

/-- On one line, the text is cut behind the first brace that a semicolon follows. -/
theorem upToBrace_cut {cs : List Char} (hline : '\n' ∉ cs) (h : ['}', ';'] <:+: cs) :
    ∃ inner behind, cs = inner ++ '}' :: ';' :: behind ∧ ∀ more, upToBrace (cs ++ more) = some (inner ++ ['}']) := by
  induction cs with
  | nil => simp at h
  | cons c cs ih =>
    by_cases hhere : ['}', ';'] <+: c :: cs
    · obtain ⟨behind, hb⟩ := hhere
      exact ⟨[], behind, hb.symm, fun more => by simp [← hb, upToBrace]⟩
    · obtain ⟨hc, hline⟩ := not_or.1 (List.mem_cons.not.1 hline)
      have h := (List.infix_cons_iff.1 h).resolve_left hhere
      obtain ⟨inner, behind, hcs, hcut⟩ := ih hline h
      have hne : cs ≠ [] := by simp [hcs]
      refine ⟨c :: inner, behind, by rw [hcs]; rfl, fun more => ?_⟩
      rw [List.cons_append, upToBrace_cons (Ne.symm hc) ((closing_prefix_append hne more).not.2 hhere), hcut more]
      rfl

/-- A text on one line that ends with a brace, the first one that a semicolon follows, is kept as a whole. -/
theorem upToBrace_whole {inner : List Char} (hline : '\n' ∉ inner) (h : ¬ ['}', ';'] <:+: inner ++ ['}'])
    (more : List Char) : upToBrace (inner ++ ['}'] ++ ';' :: more) = some (inner ++ ['}']) := by
  induction inner with
  | nil => rfl
  | cons c inner ih =>
    obtain ⟨hc, hline⟩ := not_or.1 (List.mem_cons.not.1 hline)
    rw [List.cons_append, List.infix_cons_iff, not_or] at h
    have hne : inner ++ ['}'] ≠ [] := by simp
    rw [List.cons_append, List.cons_append,
      upToBrace_cons (Ne.symm hc) ((closing_prefix_append hne (';' :: more)).not.2 h.1), ih hline h.2]
    rfl

private theorem exists_concat_brace {tail : List Char} (h : ('{' :: tail).getLast? = some '}') :
    ∃ inner, tail = inner ++ ['}'] := by
  rcases List.eq_nil_or_concat tail with rfl | ⟨inner, c, rfl⟩
  · simp at h
  · rw [List.concat_eq_append, ← List.cons_append, List.getLast?_concat, Option.some.injEq] at h
    exact ⟨inner, by rw [List.concat_eq_append, h]⟩

/-! ### What is read -/

/-- An object that is cut inside is no object. -/
private theorem readChars_cut {inner behind : List Char} {d : Document}
    (h : Document.readChars ('{' :: (inner ++ '}' :: ';' :: behind)) = some d) :
    Document.readChars ('{' :: (inner ++ ['}'])) = none := by
  have happend : '{' :: (inner ++ '}' :: ';' :: behind) = '{' :: (inner ++ ['}']) ++ ';' :: behind := by simp
  rw [happend] at h
  rw [Option.eq_none_iff_forall_ne_some]
  intro d' hleft
  exact absurd (Document.isSpace_of_readChars_append hleft h ';' List.mem_cons_self) (by decide)

private theorem ofPage_of_embedded? {page : String} {cs : List Char} (h : embedded? page.toList = some cs) :
    ofPage page =
      match (Document.readChars cs).bind Document.value? with
      | some data =>
        match data.member? "pids" with
        | some (.array entries) => ofEntries entries
        | _ => []
      | none => [] := by
  unfold ofPage
  rw [h]
  rfl

/-- A page that assigns an object on one line is read as the listings in the object's list, in their order and
without what is no listing, if no `};` stands in the object's text.  If one does, the list is empty. -/
theorem ofPage_assigned (front text back : String) {data : Json} {entries : List Json}
    (hfront : ¬ "var configData = \x7b".toList <:+: front.toList) (hline : '\n' ∉ text.toList)
    (hopen : text.toList.head? = some '{') (hclose : text.toList.getLast? = some '}')
    (hread : Json.read text = some data) (hentries : data.member? "pids" = some (.array entries)) :
    ofPage (front ++ "var configData = " ++ text ++ ";" ++ back) =
      if "\x7d;".toList <:+: text.toList then [] else entries.filterMap fun j => read j.document := by
  obtain ⟨tail, htext⟩ : ∃ tail, text.toList = '{' :: tail := by
    cases ht : text.toList with
    | nil => simp [ht] at hopen
    | cons c tail => exact ⟨tail, by simpa [ht] using hopen⟩
  have hpage : (front ++ "var configData = " ++ text ++ ";" ++ back).toList =
      front.toList ++ (assignment ++ ['{'] ++ (tail ++ ';' :: back.toList)) := by
    simp only [String.toList_append, htext]
    show front.toList ++ assignment ++ '{' :: tail ++ [';'] ++ back.toList = _
    simp only [List.append_assoc, List.cons_append, List.nil_append]
  have hchars : (Document.readChars ('{' :: tail)).bind Document.value? = some data := by
    rw [← htext]
    exact hread
  rw [htext] at hline hclose ⊢
  have hline : '\n' ∉ tail := fun h => hline (List.mem_cons_of_mem _ h)
  have hwithin : "\x7d;".toList <:+: '{' :: tail ↔ ['}', ';'] <:+: tail := by
    rw [List.infix_cons_iff]
    simp
  by_cases hcut : ['}', ';'] <:+: tail
  · -- the object is cut inside, and what is left is no object
    obtain ⟨inner, behind, rfl, hupTo⟩ := upToBrace_cut hline hcut
    have hembedded := hpage ▸ embedded?_append hfront (hupTo (';' :: back.toList))
    rw [if_pos (hwithin.2 hcut), ofPage_of_embedded? hembedded]
    obtain ⟨d, hd, -⟩ := Option.bind_eq_some_iff.1 hchars
    rw [readChars_cut hd]
    rfl
  · -- the first brace that a semicolon follows is the one that closes the object
    obtain ⟨inner, rfl⟩ := exists_concat_brace hclose
    have hline : '\n' ∉ inner := fun h => hline (List.mem_append_left _ h)
    have hembedded := embedded?_append hfront (upToBrace_whole hline hcut back.toList)
    rw [if_neg (mt hwithin.1 hcut), ofPage_of_embedded? (hpage ▸ hembedded), hchars]
    simp only [hentries]
    rfl

/-! ### Two pages -/

/-- The PIDs that an object lists. -/
private def listedIn? (text : String) : Option (List String) :=
  match (Json.read text).bind (Json.member? "pids") with
  | some (.array entries) => some ((entries.filterMap fun j => read j.document).map pid)
  | _ => none

private theorem exists_of_listedIn? {text : String} {pids : List String} (h : listedIn? text = some pids) :
    ∃ data entries, Json.read text = some data ∧ data.member? "pids" = some (.array entries) ∧
      (entries.filterMap fun j => read j.document).map pid = pids := by
  unfold listedIn? at h
  split at h
  · rename_i entries hentries
    obtain ⟨data, hdata, hentries⟩ := Option.bind_eq_some_iff.1 hentries
    exact ⟨data, entries, hdata, hentries, Option.some.inj h⟩
  · cases h

private def pageFront : String := "<script>\nvar a;"

private def pageBack : String := "\nvar b = \x7b\x7d;"

/-- Two listings with a number between them, and braces in a hint. -/
private def wholeText : String :=
  "\x7b\"pids\":[\x7b\"id\":\"p.47\",\"nameHint\":\"\x7ba\x7d ;\"\x7d,42,\x7b\"id\":\"p.48\"\x7d]\x7d"

theorem ofPage_assigned_around_number :
    ∃ data entries, ¬ "var configData = \x7b".toList <:+: pageFront.toList ∧ '\n' ∉ wholeText.toList ∧
      wholeText.toList.head? = some '{' ∧ wholeText.toList.getLast? = some '}' ∧ Json.read wholeText = some data ∧
      data.member? "pids" = some (.array entries) ∧
      (ofPage (pageFront ++ "var configData = " ++ wholeText ++ ";" ++ pageBack)).map pid =
        ["p.47", "p.48"] := by
  have hlisted : listedIn? wholeText = some ["p.47", "p.48"] := by decide +kernel
  obtain ⟨data, entries, hread, hentries, hpids⟩ := exists_of_listedIn? hlisted
  have hfront : ¬ "var configData = \x7b".toList <:+: pageFront.toList := by decide +kernel
  have hline : '\n' ∉ wholeText.toList := by decide +kernel
  have hopen : wholeText.toList.head? = some '{' := by decide +kernel
  have hclose : wholeText.toList.getLast? = some '}' := by decide +kernel
  have hcut : ¬ "\x7d;".toList <:+: wholeText.toList := by decide +kernel
  refine ⟨data, entries, hfront, hline, hopen, hclose, hread, hentries, ?_⟩
  rw [ofPage_assigned pageFront wholeText pageBack hfront hline hopen hclose hread hentries, if_neg hcut, hpids]

/-- A meter whose hint an operator wrote with `};` in it. -/
private def cutText : String :=
  "\x7b\"pids\":[\x7b\"id\":\"p.47\",\"nameHint\":\"Roof \x7ba\x7d; [meter0]\"\x7d]\x7d"

/-- A page is not always read as the list that it assigns. -/
theorem not_forall_ofPage_assigned :
    ¬ ∀ (front text back : String) (data : Json) (entries : List Json),
      ¬ "var configData = \x7b".toList <:+: front.toList → '\n' ∉ text.toList → text.toList.head? = some '{' →
      text.toList.getLast? = some '}' → Json.read text = some data → data.member? "pids" = some (.array entries) →
      ofPage (front ++ "var configData = " ++ text ++ ";" ++ back) = entries.filterMap fun j => read j.document := by
  intro h
  have hlisted : listedIn? cutText = some ["p.47"] := by decide +kernel
  obtain ⟨data, entries, hread, hentries, hpids⟩ := exists_of_listedIn? hlisted
  have hpage := h "" cutText "" data entries (by decide +kernel) (by decide +kernel) (by decide +kernel)
    (by decide +kernel) hread hentries
  rw [← hpage] at hpids
  have hempty : (ofPage ("" ++ "var configData = " ++ cutText ++ ";" ++ "")).map pid = [] := by decide +kernel
  exact absurd (hempty.symm.trans hpids) (by decide)

end EnergyGateway.Listing
