import EnergyGateway.Http.Url
import EnergyGateway.Proofs.Text.Percent

/-!
# Segments of paths

A path is cut at its slashes, each part is encoded, and dots are resolved.  Behind a segment that is no dots, the rest
of a path adds one segment that is read as a given text just if the rest is that text and the text is a name
(`resolveDots_encodedParts_iff`): it has no slash and no `%`, which is not encoded once more, and is no dots.
-/

namespace EnergyGateway.Url

open Text

/-! ### Slashes -/

theorem exists_splitSlashes (cs : List Char) : ∃ part parts, splitSlashes cs = part :: parts := by
  cases cs with
  | nil => exact ⟨[], [], rfl⟩
  | cons c rest =>
    rw [splitSlashes]
    cases splitSlashes rest with
    | nil => exact ⟨_, _, rfl⟩
    | cons part parts =>
      dsimp only
      split
      · exact ⟨_, _, rfl⟩
      · exact ⟨_, _, rfl⟩

theorem splitSlashes_cons (c : Char) {rest part : List Char} {parts : List (List Char)}
    (h : splitSlashes rest = part :: parts) :
    splitSlashes (c :: rest) = if isSlash c then [] :: part :: parts else (c :: part) :: parts := by
  rw [splitSlashes, h]

theorem splitSlashes_append_slash (a b : List Char) :
    splitSlashes (a ++ '/' :: b) = splitSlashes a ++ splitSlashes b := by
  induction a with
  | nil =>
    obtain ⟨part, parts, hb⟩ := exists_splitSlashes b
    rw [List.nil_append, splitSlashes_cons _ hb, hb]
    rfl
  | cons c a ih =>
    obtain ⟨part, parts, ha⟩ := exists_splitSlashes a
    rw [ha, List.cons_append] at ih
    rw [List.cons_append, splitSlashes_cons _ ih, splitSlashes_cons _ ha]
    split <;> rfl

/-- A part between slashes is taken from the text, and has no slash. -/
theorem of_mem_splitSlashes {cs part : List Char} (h : part ∈ splitSlashes cs) :
    part.Sublist cs ∧ ∀ c ∈ part, isSlash c = false := by
  induction cs generalizing part with
  | nil =>
    rw [List.mem_singleton.1 h]
    exact ⟨List.Sublist.refl _, by simp⟩
  | cons c rest ih =>
    obtain ⟨first, parts, hrest⟩ := exists_splitSlashes rest
    rw [hrest] at ih
    rw [splitSlashes_cons c hrest] at h
    cases hc : isSlash c with
    | true =>
      rw [hc, if_pos rfl] at h
      rcases List.mem_cons.1 h with rfl | h
      · exact ⟨List.nil_sublist _, by simp⟩
      · exact ⟨(ih h).1.cons c, (ih h).2⟩
    | false =>
      rw [hc, if_neg (by simp)] at h
      rcases List.mem_cons.1 h with rfl | h
      · obtain ⟨hsublist, hslash⟩ := ih List.mem_cons_self
        exact ⟨hsublist.cons_cons c, List.forall_mem_cons.2 ⟨hc, hslash⟩⟩
      · obtain ⟨hsublist, hslash⟩ := ih (List.mem_cons_of_mem _ h)
        exact ⟨hsublist.cons c, hslash⟩

theorem splitSlashes_of_forall {cs : List Char} (h : ∀ c ∈ cs, isSlash c = false) : splitSlashes cs = [cs] := by
  induction cs with
  | nil => rfl
  | cons c rest ih =>
    obtain ⟨hc, hrest⟩ := List.forall_mem_cons.1 h
    rw [splitSlashes_cons c (ih hrest), hc]
    rfl

/-! ### Dots -/

private theorem toNat_toLower (c : Char) :
    c.toLower.toNat = c.toNat ∨ ('A'.toNat ≤ c.toNat ∧ c.toLower.toNat = c.toNat + 32) := by
  unfold Char.toLower
  split
  · rename_i h
    have hle := UInt32.le_iff_toNat_le.1 h.2
    refine .inr ⟨h.1, ?_⟩
    simp at hle ⊢
    omega
  · exact .inl rfl

private theorem eq_of_toLower {c d : Char} (hd : d.toNat < 'A'.toNat) (h : c.toLower = d) : c = d := by
  subst h
  rcases toNat_toLower c with hc | ⟨hletter, hc⟩
  · exact (Char.toNat_inj.1 hc).symm
  · omega

private theorem eq_or_of_toLower_e {c : Char} (h : c.toLower = 'e') : c = 'e' ∨ c = 'E' := by
  rcases toNat_toLower c with hc | ⟨-, hc⟩
  · rw [h] at hc
    exact .inl (Char.toNat_inj.1 hc.symm)
  · rw [h] at hc
    refine .inr (Char.toNat_inj.1 ?_)
    change 101 = c.toNat + 32 at hc
    change c.toNat = 69
    omega

/-- A dot, plain or encoded. -/
private def IsOneDot (cs : List Char) : Prop :=
  cs.map Char.toLower = ['.'] ∨ cs.map Char.toLower = ['%', '2', 'e']

private theorem percentDecode?_dot {dot : List Char} (h : IsOneDot dot) (rest : List Char) :
    percentDecode? (dot ++ rest) = (percentDecode? rest).map (0x2E :: ·) := by
  rcases h with h | h
  · obtain ⟨c, rfl, hc⟩ := List.map_eq_singleton_iff.1 h
    rw [eq_of_toLower (by decide) hc, List.singleton_append, percentDecode?_cons (by decide)]
    rfl
  · obtain ⟨c, _, rfl, hc, h⟩ := List.map_eq_cons_iff.1 h
    obtain ⟨d, _, rfl, hd, h⟩ := List.map_eq_cons_iff.1 h
    obtain ⟨e, rfl, he⟩ := List.map_eq_singleton_iff.1 h
    rw [eq_of_toLower (by decide) hc, eq_of_toLower (by decide) hd]
    rcases eq_or_of_toLower_e he with rfl | rfl
    · simp only [List.cons_append, List.nil_append, percentDecode?]
      cases percentDecode? rest <;> rfl
    · simp only [List.cons_append, List.nil_append, percentDecode?]
      cases percentDecode? rest <;> rfl

private theorem isOneDot_of_isDot {segment : List Char} (h : isDot segment) : IsOneDot segment := by
  simp only [isDot, List.contains_iff_mem, List.mem_cons, List.not_mem_nil, or_false, ← String.toList_inj,
    String.toList_ofList] at h
  exact h

private theorem isOneDot_of_isDoubleDot {segment : List Char} (h : isDoubleDot segment) :
    ∃ first second, segment = first ++ second ∧ IsOneDot first ∧ IsOneDot second := by
  have hlower : ∃ a ∈ [['.'], ['%', '2', 'e']], ∃ b ∈ [['.'], ['%', '2', 'e']], segment.map Char.toLower = a ++ b := by
    simpa [isDoubleDot, ← String.toList_inj, or_assoc] using h
  obtain ⟨a, ha, b, hb, hmap⟩ := hlower
  obtain ⟨first, second, rfl, rfl, rfl⟩ := List.map_eq_append_iff.1 hmap
  exact ⟨first, second, rfl, by simpa [IsOneDot] using ha, by simpa [IsOneDot] using hb⟩

/-- Dots are read as dots, plain or encoded. -/
theorem decodeText?_of_isDot {segment : List Char} (h : isDot segment) : decodeText? segment = some "." := by
  have hdecode := percentDecode?_dot (isOneDot_of_isDot h) []
  rw [List.append_nil] at hdecode
  rw [decodeText?_eq_some_iff, hdecode]
  rfl

theorem decodeText?_of_isDoubleDot {segment : List Char} (h : isDoubleDot segment) :
    decodeText? segment = some ".." := by
  obtain ⟨first, second, rfl, hfirst, hsecond⟩ := isOneDot_of_isDoubleDot h
  have hdecode := percentDecode?_dot hsecond []
  rw [List.append_nil] at hdecode
  rw [decodeText?_eq_some_iff, percentDecode?_dot hfirst, hdecode]
  rfl

theorem exists_goBack (done : List (List Char)) : ∃ k, goBack done = done.take k := by
  unfold goBack
  split
  · exact ⟨done.length, List.take_length.symm⟩
  · exact ⟨done.length - 1, List.dropLast_eq_take⟩

/-- What is resolved is a part of what was done before, and behind it segments of the path or empty ones. -/
theorem exists_resolveDots (done rest : List (List Char)) :
    ∃ k added, resolveDots done rest = done.take k ++ added ∧ ∀ segment ∈ added, segment = [] ∨ segment ∈ rest := by
  induction done, rest using resolveDots.induct with
  | case1 done => exact ⟨done.length, [], by simp [resolveDots], by simp⟩
  | case2 done segment hdots =>
    obtain ⟨k, hk⟩ := exists_goBack done
    exact ⟨k, [[]], by simp [resolveDots, hdots, hk], by simp⟩
  | case3 done segment hdots hdot => exact ⟨done.length, [[]], by simp [resolveDots, hdots, hdot], by simp⟩
  | case4 done segment hdots hdot => exact ⟨done.length, [segment], by simp [resolveDots, hdots, hdot], by simp⟩
  | case5 done segment rest hne hdots ih =>
    obtain ⟨m, hm⟩ := exists_goBack done
    obtain ⟨k, added, heq, hadded⟩ := ih
    refine ⟨min k m, added, ?_, fun e he => (hadded e he).imp_right (List.mem_cons_of_mem _)⟩
    rw [resolveDots.eq_3 _ _ _ hne, if_pos hdots, heq, hm, List.take_take]
  | case6 done segment rest hne hdots hdot ih =>
    obtain ⟨k, added, heq, hadded⟩ := ih
    refine ⟨k, added, ?_, fun e he => (hadded e he).imp_right (List.mem_cons_of_mem _)⟩
    rw [resolveDots.eq_3 _ _ _ hne, if_neg hdots, if_pos hdot, heq]
  | case7 done segment rest hne hdots hdot ih =>
    obtain ⟨k, added, heq, hadded⟩ := ih
    refine ⟨k, [segment].take (k - done.length) ++ added, ?_, fun e he => ?_⟩
    · rw [resolveDots.eq_3 _ _ _ hne, if_neg hdots, if_neg hdot, heq, List.take_append, List.append_assoc]
    · rcases List.mem_append.1 he with he | he
      · rw [List.mem_singleton.1 (List.mem_of_mem_take he)]
        exact .inr List.mem_cons_self
      · exact (hadded e he).imp_right (List.mem_cons_of_mem _)

/-- Behind a segment that is no dots, the path goes on from there. -/
theorem exists_resolveDots_append {name : List Char} (hdot : isDot name = false) (hdots : isDoubleDot name = false)
    (done before : List (List Char)) :
    ∃ done', ∀ rest, resolveDots done (before ++ name :: rest) = resolveDots (done' ++ [name]) rest := by
  induction before generalizing done with
  | nil =>
    refine ⟨done, fun rest => ?_⟩
    cases rest with
    | nil => simp [resolveDots, hdot, hdots]
    | cons next rest => simp [resolveDots, hdot, hdots]
  | cons segment before ih =>
    have hne (rest : List (List Char)) : before ++ name :: rest = [] → False := by simp
    simp only [List.cons_append, resolveDots.eq_3 _ _ _ (hne _)]
    split
    · exact ih _
    · split <;> exact ih _

/-- A path goes one segment further only by a segment of it, or an empty one. -/
theorem mem_of_resolveDots_eq {done rest : List (List Char)} {segment : List Char}
    (h : resolveDots done rest = done ++ [segment]) : segment = [] ∨ segment ∈ rest := by
  obtain ⟨k, added, heq, hadded⟩ := exists_resolveDots done rest
  rw [h] at heq
  rcases added.eq_nil_or_concat with rfl | ⟨added, last, rfl⟩
  · have hlength := congrArg List.length heq
    simp only [List.length_append, List.length_singleton, List.append_nil, List.length_take] at hlength
    omega
  · rw [List.concat_eq_append, ← List.append_assoc] at heq
    have hlast := List.append_inj_right' heq rfl
    rw [List.singleton_inj.1 hlast]
    exact hadded last (by simp)

/-! ### Names -/

/-- The segments that a part of a path is written as. -/
def encodedParts (cs : List Char) : List (List Char) := (splitSlashes cs).map (percentEncodeExcept keptInPath)

theorem encodedParts_append_slash (a b : List Char) :
    encodedParts (a ++ '/' :: b) = encodedParts a ++ encodedParts b := by
  rw [encodedParts, splitSlashes_append_slash, List.map_append]
  rfl

/-- Whether a text is one segment of a path, and is read as itself. -/
def IsName (s : String) : Prop := (∀ c ∈ s.toList, c ∉ ['/', '\\', '%']) ∧ s ≠ "." ∧ s ≠ ".."

-- the instances are given by name, since another one goes through all characters there are
instance (s : String) : Decidable (IsName s) := @instDecidableAnd _ _ (List.decidableBAll _ _) inferInstance

section IsName

variable {s : String}

theorem IsName.encodedParts_eq (h : IsName s) :
    encodedParts s.toList = [percentEncodeExcept keptInPath s.toList] := by
  have hslash : ∀ c ∈ s.toList, isSlash c = false := by
    intro c hc
    have hne := h.1 c hc
    simp only [List.mem_cons, not_or] at hne
    simp [isSlash, hne]
  rw [encodedParts, splitSlashes_of_forall hslash, List.map_singleton]

theorem IsName.decodeText?_eq (h : IsName s) : decodeText? (percentEncodeExcept keptInPath s.toList) = some s := by
  refine decodeText?_percentEncodeExcept fun hc => ?_
  simpa using h.1 _ hc

theorem IsName.isDot_eq (h : IsName s) : isDot (percentEncodeExcept keptInPath s.toList) = false := by
  by_contra hdot
  have hread := decodeText?_of_isDot (eq_true_of_ne_false hdot)
  exact h.2.1 (Option.some.inj (h.decodeText?_eq.symm.trans hread))

theorem IsName.isDoubleDot_eq (h : IsName s) : isDoubleDot (percentEncodeExcept keptInPath s.toList) = false := by
  by_contra hdots
  have hread := decodeText?_of_isDoubleDot (eq_true_of_ne_false hdots)
  exact h.2.2 (Option.some.inj (h.decodeText?_eq.symm.trans hread))

theorem IsName.resolveDots_eq (h : IsName s) (done : List (List Char)) :
    resolveDots done (encodedParts s.toList) = done ++ [percentEncodeExcept keptInPath s.toList] := by
  rw [h.encodedParts_eq, resolveDots, h.isDoubleDot_eq, h.isDot_eq]
  rfl

/-- What is left of a text adds a segment that is read as the text just if nothing has been left out and the text is a
name. -/
theorem resolveDots_encodedParts_iff {part : List Char} (hpart : part.Sublist s.toList) (done : List (List Char)) :
    (∃ segment, resolveDots done (encodedParts part) = done ++ [segment] ∧ decodeText? segment = some s) ↔
      part = s.toList ∧ IsName s := by
  constructor
  · rintro ⟨segment, hresolve, hdecode⟩
    have hempty : decodeText? [] = some "" := by decide +kernel
    rcases mem_of_resolveDots_eq hresolve with rfl | hmem
    · cases hempty.symm.trans hdecode
      exact ⟨List.sublist_nil.1 hpart, by decide +kernel⟩
    · obtain ⟨whole, hwhole, rfl⟩ := List.mem_map.1 hmem
      obtain ⟨hsublist, hslash⟩ := of_mem_splitSlashes hwhole
      obtain ⟨rfl, hpercent⟩ := eq_of_decodeText?_percentEncodeExcept rfl (hsublist.trans hpart) hdecode
      obtain rfl := hpart.antisymm hsublist
      -- dots end in an empty segment, which is not read as them
      have hdots (back : List (List Char)) (hback : resolveDots done (encodedParts s.toList) = back ++ [[]]) :
          s = "" := by
        have hsegment := List.append_inj_right' (hresolve.symm.trans hback) rfl
        rw [List.singleton_inj.1 hsegment, hempty] at hdecode
        exact (Option.some.inj hdecode).symm
      refine ⟨rfl, fun c hc => ?_, ?_, ?_⟩
      · have hne := hslash c hc
        have hpercent : c ≠ '%' := fun heq => hpercent (heq ▸ hc)
        simp only [isSlash, Bool.or_eq_false_iff, beq_eq_false_iff_ne] at hne
        simp [hne, hpercent]
      · rintro rfl
        exact absurd (hdots done rfl) (by decide)
      · rintro rfl
        exact absurd (hdots (goBack done) rfl) (by decide)
  · rintro ⟨rfl, h⟩
    exact ⟨_, h.resolveDots_eq done, h.decodeText?_eq⟩

/-- Behind a name, the segments of a path go on from those that end with the name. -/
theorem IsName.exists_pathSegments (h : IsName s) (text : List Char) :
    ∃ done, pathSegments (text ++ '/' :: s.toList) = done.map String.ofList ∧
      ∀ rest, pathSegments (text ++ '/' :: (s.toList ++ '/' :: rest)) =
        (resolveDots done (encodedParts rest)).map String.ofList := by
  have hbefore : ∃ before, ∀ rest, encodedParts ((text ++ '/' :: rest).drop 1) = before ++ encodedParts rest := by
    cases text with
    | nil => exact ⟨[], fun rest => rfl⟩
    | cons c text => exact ⟨encodedParts text, encodedParts_append_slash text⟩
  obtain ⟨before, hbefore⟩ := hbefore
  obtain ⟨done, hdone⟩ := exists_resolveDots_append h.isDot_eq h.isDoubleDot_eq [] before
  refine ⟨done ++ [percentEncodeExcept keptInPath s.toList], ?_, fun rest => ?_⟩
  · change (resolveDots [] (encodedParts _)).map String.ofList = _
    rw [hbefore, h.encodedParts_eq, hdone, resolveDots]
  · change (resolveDots [] (encodedParts _)).map String.ofList = _
    rw [hbefore, encodedParts_append_slash, h.encodedParts_eq, List.singleton_append, hdone]

end IsName

end EnergyGateway.Url
