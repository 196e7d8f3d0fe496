import EnergyGateway.Json.Record
import EnergyGateway.Proofs.Json.Members

/-!
# Members of open records

An open record is read from an object and written as an object again.  A declared member follows the rule of its field;
every other member is the one that was read.  What is written is read to the same record (`KeepsMembers.of_fields`).
-/

namespace EnergyGateway

/-! ### Rules -/

/-- What becomes of a declared member. -/
inductive Rule where
  /-- It is there. -/
  | required
  /-- A value stands for it when it is absent. -/
  | standard (value : Json)
  /-- It is left out when it is `null`. -/
  | omitted

/-- What is written for a declared member that was read, or was absent. -/
def Rule.member : Rule → Option Json → Option Json
  | .required, input => input
  | .standard value, input => some (input.getD value)
  | .omitted, input => input.filter (!·.isNull)

/-- What is read is written with the same members, as far as the rules of the declared ones do not say otherwise, and is
read again. -/
structure KeepsMembers {α : Type} (read : Document → Option α) (write : α → Json) (rules : List (String × Rule)) :
    Prop where
  members {d : Document} {a : α} (h : read d = some a) :
    ∃ input output, d.value? = some (.object input) ∧ (input.map Prod.fst).Nodup ∧
      write a = .object output ∧ (output.map Prod.fst).Nodup ∧
      ∀ key, output.lookup key = match rules.lookup key with
        | some rule => rule.member (input.lookup key)
        | none => input.lookup key
  reread {d : Document} {a : α} (h : read d = some a) : read (write a).document = some a

/-! ### Readers of single values -/

/-- A text that is read has the value that is written, and this is read again. -/
structure Faithful {α : Type} (item : Document → Option α) (write : α → Json) : Prop where
  value {d : Document} {a : α} (h : item d = some a) : d.value? = some (write a)
  reread {d : Document} {a : α} (h : item d = some a) : item (write a).document = some a

theorem faithful_text : Faithful Document.text .string where
  value {d} s h := by
    cases d <;> cases h
    rfl
  reread _ := rfl

variable {α : Type} {item : Document → Option α} {write : α → Json}

theorem Faithful.list (h : Faithful item write) : Faithful (Document.list item) fun as => .array (as.map write) where
  value {d as} has := by
    cases d with
    | array items =>
      have hitems : items.Forall₂ (fun d a => item d = some a) as := mapM_eq_some_iff.1 has
      have hvalues : Document.values? items = some (as.map write) := by
        rw [Document.values?_eq_some_iff, List.forall₂_map_right_iff]
        exact hitems.imp fun _ _ => h.value
      rw [Document.value?, hvalues, Option.map_some]
    | _ => cases has
  reread {d as} has := by
    cases d with
    | array items =>
      have hitems : items.Forall₂ (fun d a => item d = some a) as := mapM_eq_some_iff.1 has
      have hreread : ∀ a ∈ as, item (write a).document = some a :=
        ((List.forall₂_and_left _ _).1 (hitems.flip.imp fun _ d hd => ⟨h.reread hd, hd⟩)).1
      show (Json.documents (as.map write)).mapM item = some as
      rw [Json.documents_eq_map, List.map_map, mapM_eq_some_iff, List.forall₂_map_left_iff, List.forall₂_same]
      exact hreread
    | _ => cases has

theorem Document.option_eq_of_ne_null {d : Document} (hd : d ≠ .null) : Document.option item d = (item d).map some := by
  cases d with
  | null => exact absurd rfl hd
  | _ => rfl

/-- `null` stands for none unless it can be read itself. -/
theorem Faithful.option (h : Faithful item write) (hnull : item .null = none) :
    Faithful (Document.option item) (Json.ofOption write) where
  value {d o} ho := by
    by_cases hd : d = .null
    · subst hd
      cases ho
      rfl
    · rw [Document.option_eq_of_ne_null hd, Option.map_eq_some_iff] at ho
      obtain ⟨a, ha, rfl⟩ := ho
      exact h.value ha
  reread {d o} ho := by
    by_cases hd : d = .null
    · subst hd
      cases ho
      rfl
    · rw [Document.option_eq_of_ne_null hd, Option.map_eq_some_iff] at ho
      obtain ⟨a, ha, rfl⟩ := ho
      have hreread : item (write a).document = some a := h.reread ha
      have hne : (write a).document ≠ .null := by
        intro heq
        rw [heq, hnull] at hreread
        cases hreread
      show Document.option item (write a).document = some (some a)
      rw [Document.option_eq_of_ne_null hne, hreread, Option.map_some]

/-! ### Records taken apart -/

namespace Fields

variable {r r' : Fields} {name : String} {a : α}

/-- The declared member has a value, or it is absent. -/
def Has (r : Fields) (name : String) : Option Json → Prop :=
  Option.Rel (fun d j => d.value? = some j) (r.declared.lookup name)

theorem Has.eq_bind {input : Option Json} (h : r.Has name input) :
    input = (r.declared.lookup name).bind Document.value? := by
  unfold Has at h
  generalize r.declared.lookup name = o at h ⊢
  cases h with
  | some h => exact h.symm
  | none => rfl

/-- What is written for a field is what its rule says about the declared member. -/
def Follows (r : Fields) (rule : String × Rule) (field : String × Option Json) : Prop :=
  rule.1 = field.1 ∧ ∃ input, r.Has field.1 input ∧ field.2 = rule.2.member input

/-- The declared member is the one that is written for a field, or both are absent. -/
def Holds (r : Fields) (field : String × Option Json) : Prop :=
  r.declared.lookup field.1 = field.2.map Json.document

theorem follows_required (h : Faithful item write) (ha : r.required name item = some a) :
    r.Follows (name, .required) (name, some (write a)) := by
  obtain ⟨d, hd, hitem⟩ := Option.bind_eq_some_iff.1 ha
  refine ⟨rfl, some (write a), ?_, rfl⟩
  rw [Has, hd]
  exact .some (h.value hitem)

theorem required_of_holds (h : Faithful item write) (ha : r.required name item = some a)
    (hholds : r'.Holds (name, some (write a))) : r'.required name item = some a := by
  obtain ⟨d, -, hitem⟩ := Option.bind_eq_some_iff.1 ha
  have hlookup : r'.declared.lookup name = some (write a).document := hholds
  rw [required, hlookup, Option.bind_some, h.reread hitem]

variable {standard : α}

theorem withDefault_eq_some_iff : r.withDefault name item standard = some a ↔
    (r.declared.lookup name = none ∧ standard = a) ∨ ∃ d, r.declared.lookup name = some d ∧ item d = some a := by
  unfold withDefault
  cases r.declared.lookup name with
  | none => simp
  | some d => simp

theorem follows_withDefault (h : Faithful item write) (ha : r.withDefault name item standard = some a) :
    r.Follows (name, .standard (write standard)) (name, some (write a)) := by
  rcases withDefault_eq_some_iff.1 ha with ⟨hnone, rfl⟩ | ⟨d, hd, hitem⟩
  · refine ⟨rfl, none, ?_, rfl⟩
    rw [Has, hnone]
    exact .none
  · refine ⟨rfl, some (write a), ?_, rfl⟩
    rw [Has, hd]
    exact .some (h.value hitem)

/-- The standard value is read from what is written for it. -/
theorem withDefault_of_holds (h : Faithful item write) (hstandard : item (write standard).document = some standard)
    (ha : r.withDefault name item standard = some a) (hholds : r'.Holds (name, some (write a))) :
    r'.withDefault name item standard = some a := by
  have hlookup : r'.declared.lookup name = some (write a).document := hholds
  have hreread : item (write a).document = some a := by
    rcases withDefault_eq_some_iff.1 ha with ⟨-, rfl⟩ | ⟨d, -, hitem⟩
    · exact hstandard
    · exact h.reread hitem
  exact withDefault_eq_some_iff.2 (.inr ⟨_, hlookup, hreread⟩)

/-- A text that may be `null` or missing, and is left out then. -/
theorem follows_optional {o : Option String} (ho : r.optional name Document.text = some o) :
    r.Follows (name, .omitted) (name, o.map .string) := by
  rcases withDefault_eq_some_iff.1 ho with ⟨hnone, rfl⟩ | ⟨d, hd, hitem⟩
  · refine ⟨rfl, none, ?_, rfl⟩
    rw [Has, hnone]
    exact .none
  · refine ⟨rfl, some (Json.ofOption .string o), ?_, ?_⟩
    · rw [Has, hd]
      exact .some ((faithful_text.option rfl).value hitem)
    · cases o <;> rfl

theorem optional_of_holds {o : Option String} (hholds : r'.Holds (name, o.map .string)) :
    r'.optional name Document.text = some o := by
  cases o with
  | none => exact withDefault_eq_some_iff.2 (.inl ⟨hholds, rfl⟩)
  | some s => exact withDefault_eq_some_iff.2 (.inr ⟨_, hholds, rfl⟩)

end Fields

/-! ### Objects that are read -/

namespace Document

variable {names : List String} {d : Document} {r : Fields} {extra : KeyMap Json}

theorem openRecord?_eq_some_iff : d.openRecord? names = some r ↔ ∃ members, d = .object members ∧
    ((members.filter (names.contains ·.1)).map Prod.fst).Nodup ∧
    r = ⟨members.filter (names.contains ·.1), false, members.filter (!names.contains ·.1)⟩ := by
  cases d with
  | object members =>
    constructor
    · intro h
      obtain ⟨hnodup, hr⟩ := Option.ite_none_right_eq_some.1 h
      exact ⟨members, rfl, hnodup, (Option.some.inj hr).symm⟩
    · rintro ⟨_, hobject, hnodup, rfl⟩
      cases hobject
      exact if_pos hnodup
  | _ =>
    refine ⟨nofun, ?_⟩
    rintro ⟨_, hobject, -⟩
    cases hobject

theorem rest_eq_some_iff : r.rest = some extra ↔ ∃ vs, Aligned value? r.others vs ∧ .ofList vs = extra := by
  simp only [Fields.rest, Option.map_eq_some_iff, memberValues?_eq_some_iff]

/-- What is left of a record has other keys than its fields, and is what its text is read to. -/
theorem forall_rest (hopen : d.openRecord? names = some r) (hrest : r.rest = some extra) :
    ∀ e ∈ extra.entries, e.1 ∉ names ∧ e.2.document.value? = some e.2 := by
  obtain ⟨members, rfl, -, rfl⟩ := openRecord?_eq_some_iff.1 hopen
  obtain ⟨vs, hvs, rfl⟩ := rest_eq_some_iff.1 hrest
  intro e he
  have hmem : e ∈ vs := KeyMap.mem_of_mem_ofList he
  have hkey : e.1 ∈ (members.filter (!names.contains ·.1)).map Prod.fst := hvs.map_fst_eq ▸ List.mem_map_of_mem hmem
  obtain ⟨member, hmember, heq⟩ := List.mem_map.1 hkey
  have hnot : member.1 ∉ names := by simpa using (List.mem_filter.1 hmember).2
  exact ⟨heq ▸ hnot, forall_member_value?_document (memberValues?_eq_some_iff.2 hvs) e hmem⟩

/-- An object has a value if its fields have values or are absent and the rest has a value, and its members are those of
the fields and of the rest. -/
theorem exists_value_of_openRecord? (hopen : d.openRecord? names = some r) (hrest : r.rest = some extra)
    (hdeclared : ∀ name ∈ names, ∃ input, r.Has name input) :
    ∃ object : KeyMap Json, d.value? = some (.object object.entries) ∧
      (∀ name ∈ names, r.Has name (object.get? name)) ∧ ∀ key ∉ names, object.get? key = extra.get? key := by
  obtain ⟨members, rfl, hnodup, rfl⟩ := openRecord?_eq_some_iff.1 hopen
  obtain ⟨others, hothers, rfl⟩ := rest_eq_some_iff.1 hrest
  have hvalues : ∀ e ∈ members, ∃ j, e.2.value? = some j := by
    intro e he
    by_cases hname : e.1 ∈ names
    · have hmem : e ∈ members.filter (names.contains ·.1) := List.mem_filter.2 ⟨he, by simpa using hname⟩
      obtain ⟨input, hinput⟩ := hdeclared e.1 hname
      rw [Fields.Has, lookup_eq_some_of_mem hnodup hmem] at hinput
      cases hinput with
      | some hj => exact ⟨_, hj⟩
    · obtain ⟨j, hj, -⟩ := hothers.exists_of_mem e (List.mem_filter.2 ⟨he, by simpa using hname⟩)
      exact ⟨j, hj⟩
  obtain ⟨vs, hvs⟩ := exists_aligned hvalues
  -- the last of repeated members counts, so members are looked up from the end
  have hget (key : String) : (KeyMap.ofList vs).get? key = (members.reverse.lookup key).bind value? := by
    rw [KeyMap.get?_ofList, hvs.reverse.lookup_eq]
  refine ⟨.ofList vs, ?_, fun name hname => ?_, fun key hkey => ?_⟩
  · rw [value?, memberValues?_eq_some_iff.2 hvs]
    rfl
  · obtain ⟨input, hinput⟩ := hdeclared name hname
    have hlookup : members.reverse.lookup name = (members.filter (names.contains ·.1)).lookup name := by
      rw [← lookup_reverse hnodup, ← List.filter_reverse, lookup_filter names.contains, if_pos (by simpa using hname)]
    rw [hget, hlookup, ← hinput.eq_bind]
    exact hinput
  · have hlookup : members.reverse.lookup key = (members.filter (!names.contains ·.1)).reverse.lookup key := by
      rw [← List.filter_reverse, lookup_filter (!names.contains ·), if_pos (by simpa using hkey)]
    rw [hget, hlookup, KeyMap.get?_ofList, hothers.reverse.lookup_eq]

end Document

/-! ### Objects that are written -/

/-- The members that are written for the fields of a record: those that have a value. -/
def writtenMembers (fields : List (String × Option Json)) : List (String × Json) :=
  fields.filterMap fun field => field.2.map ((field.1, ·))

theorem writtenMembers_cons (name : String) (written : Option Json) (fields : List (String × Option Json)) :
    writtenMembers ((name, written) :: fields) = written.toList.map ((name, ·)) ++ writtenMembers fields := by
  cases written <;> rfl

section Written

variable {fields : List (String × Option Json)} {extra : KeyMap Json}

theorem mem_keys_of_written {key : String} (h : key ∈ (writtenMembers fields).map Prod.fst) :
    key ∈ fields.map Prod.fst := by
  obtain ⟨e, he, rfl⟩ := List.mem_map.1 h
  obtain ⟨field, hfield, heq⟩ := List.mem_filterMap.1 he
  obtain ⟨j, -, rfl⟩ := Option.map_eq_some_iff.1 heq
  exact List.mem_map_of_mem hfield

theorem nodup_written (hnodup : (fields.map Prod.fst).Nodup) : ((writtenMembers fields).map Prod.fst).Nodup := by
  induction fields with
  | nil => exact List.nodup_nil
  | cons field rest ih =>
    rw [List.map_cons, List.nodup_cons] at hnodup
    obtain ⟨name, w⟩ := field
    cases w with
    | none => exact ih hnodup.2
    | some j => exact List.nodup_cons.2 ⟨fun h => hnodup.1 (mem_keys_of_written h), ih hnodup.2⟩

theorem lookup_written (hnodup : (fields.map Prod.fst).Nodup) (key : String) :
    (writtenMembers fields).lookup key = (fields.lookup key).join := by
  induction fields with
  | nil => rfl
  | cons field rest ih =>
    rw [List.map_cons, List.nodup_cons] at hnodup
    obtain ⟨name, w⟩ := field
    rw [lookup_cons_eq_ite]
    cases w with
    | none =>
      show (writtenMembers rest).lookup key = _
      split
      · rename_i heq
        subst heq
        exact lookup_eq_none_iff_not_mem.2 fun h => hnodup.1 (mem_keys_of_written h)
      · exact ih hnodup.2
    | some j =>
      show ((name, j) :: writtenMembers rest).lookup key = _
      rw [lookup_cons_eq_ite, ih hnodup.2]
      split <;> rfl

variable (hnodup : (fields.map Prod.fst).Nodup)
  (hextra : ∀ e ∈ extra.entries, e.1 ∉ fields.map Prod.fst ∧ e.2.document.value? = some e.2)

include hnodup hextra

theorem nodup_written_append : ((writtenMembers fields ++ extra.entries).map Prod.fst).Nodup := by
  rw [List.map_append, List.nodup_append]
  refine ⟨nodup_written hnodup, extra.nodup_keys, ?_⟩
  rintro key hkey _ hkey' rfl
  obtain ⟨e, he, rfl⟩ := List.mem_map.1 hkey'
  exact (hextra e he).1 (mem_keys_of_written hkey)

/-- A key is looked up among the fields if it is one of theirs, and in the rest otherwise. -/
theorem lookup_written_append (key : String) : (writtenMembers fields ++ extra.entries).lookup key =
    if key ∈ fields.map Prod.fst then (fields.lookup key).join else extra.get? key := by
  rw [List.lookup_append, lookup_written hnodup]
  split
  · rename_i hkey
    have hnone : extra.entries.lookup key = none := by
      refine lookup_eq_none_iff_not_mem.2 fun hmem => ?_
      obtain ⟨e, he, rfl⟩ := List.mem_map.1 hmem
      exact (hextra e he).1 hkey
    rw [hnone, Option.or_none]
  · rename_i hkey
    rw [lookup_eq_none_iff_not_mem.2 hkey]
    rfl

/-- What is written for a record is taken apart into the same fields and the same rest. -/
theorem exists_openRecord?_written :
    ∃ r, (Json.object (writtenMembers fields ++ extra.entries)).document.openRecord? (fields.map Prod.fst) = some r ∧
      r.rest = some extra ∧ ∀ field ∈ fields, r.Holds field := by
  have hwritten : ∀ e ∈ Json.memberDocuments (writtenMembers fields), e.1 ∈ fields.map Prod.fst := by
    rw [Json.memberDocuments_eq_map]
    intro e he
    obtain ⟨e', he', rfl⟩ := List.mem_map.1 he
    exact mem_keys_of_written (List.mem_map_of_mem he')
  have hrest : ∀ e ∈ Json.memberDocuments extra.entries, e.1 ∉ fields.map Prod.fst := by
    rw [Json.memberDocuments_eq_map]
    intro e he
    obtain ⟨e', he', rfl⟩ := List.mem_map.1 he
    exact (hextra e' he').1
  have happend : Json.memberDocuments (writtenMembers fields ++ extra.entries) =
      Json.memberDocuments (writtenMembers fields) ++ Json.memberDocuments extra.entries := by
    simp only [Json.memberDocuments_eq_map, List.map_append]
  have hdeclared : (Json.memberDocuments (writtenMembers fields ++ extra.entries)).filter
      ((fields.map Prod.fst).contains ·.1) = Json.memberDocuments (writtenMembers fields) := by
    rw [happend, List.filter_append, List.filter_eq_self.2 (by simpa using hwritten),
      List.filter_eq_nil_iff.2 (by simpa using hrest), List.append_nil]
  have hothers : (Json.memberDocuments (writtenMembers fields ++ extra.entries)).filter
      (!(fields.map Prod.fst).contains ·.1) = Json.memberDocuments extra.entries := by
    rw [happend, List.filter_append, List.filter_eq_nil_iff.2 (by simpa using hwritten),
      List.filter_eq_self.2 (by simpa using hrest), List.nil_append]
  refine ⟨⟨Json.memberDocuments (writtenMembers fields), false, Json.memberDocuments extra.entries⟩, ?_, ?_, ?_⟩
  · rw [Json.document, Document.openRecord?_eq_some_iff]
    refine ⟨_, rfl, ?_, ?_⟩
    · rw [hdeclared, Json.memberDocuments_eq_map, List.map_map]
      exact nodup_written hnodup
    · rw [hdeclared, hothers]
  · rw [Fields.rest, Document.memberValues?_memberDocuments fun e he => (hextra e he).2, Option.map_some,
      KeyMap.ofList_entries]
  · intro field hfield
    rw [Fields.Holds, Json.memberDocuments_eq_map, lookup_map, lookup_written hnodup,
      lookup_eq_some_of_mem hnodup hfield]
    rfl

end Written

/-! ### Records that keep members -/

section Records

variable {rules : List (String × Rule)} {fields : List (String × Option Json)} {r : Fields}

private theorem map_fst_eq_of_follows (h : List.Forall₂ r.Follows rules fields) :
    rules.map Prod.fst = fields.map Prod.fst := by
  induction h with
  | nil => rfl
  | cons hfollows _ ih => rw [List.map_cons, List.map_cons, hfollows.1, ih]

private theorem exists_field_of_follows (h : List.Forall₂ r.Follows rules fields) {key : String} {rule : Rule}
    (hrule : rules.lookup key = some rule) :
    ∃ written, fields.lookup key = some written ∧ r.Follows (key, rule) (key, written) := by
  induction h with
  | nil => cases hrule
  | @cons rule' field _ _ hfollows _ ih =>
    obtain ⟨name, rule'⟩ := rule'
    obtain ⟨_, written⟩ := field
    obtain rfl : name = _ := hfollows.1
    rw [lookup_cons_eq_ite] at hrule ⊢
    by_cases hkey : key = name
    · subst hkey
      rw [if_pos rfl] at hrule ⊢
      cases hrule
      exact ⟨written, rfl, hfollows⟩
    · rw [if_neg hkey] at hrule ⊢
      exact ih hrule

private theorem exists_has_of_follows (h : List.Forall₂ r.Follows rules fields) :
    ∀ name ∈ rules.map Prod.fst, ∃ input, r.Has name input := by
  intro name hname
  cases hrule : rules.lookup name with
  | none => exact absurd hname (lookup_eq_none_iff_not_mem.1 hrule)
  | some rule =>
    obtain ⟨_, -, -, input, hinput, -⟩ := exists_field_of_follows h hrule
    exact ⟨input, hinput⟩

/-- Fields that follow their rules and are read back make a record that keeps its members. -/
theorem KeepsMembers.of_fields {β : Type} {read : Document → Option β} {write : β → Json}
    (fields : β → List (String × Option Json)) (extra : β → KeyMap Json) (hnodup : (rules.map Prod.fst).Nodup)
    (hwrite : ∀ b, write b = .object (writtenMembers (fields b) ++ (extra b).entries))
    (hread : ∀ d b, read d = some b → ∃ r, d.openRecord? (rules.map Prod.fst) = some r ∧ r.rest = some (extra b) ∧
      List.Forall₂ r.Follows rules (fields b) ∧
      ∀ d' r', d'.openRecord? (rules.map Prod.fst) = some r' → r'.rest = some (extra b) →
        (∀ field ∈ fields b, r'.Holds field) → read d' = some b) :
    KeepsMembers read write rules where
  members {d b} h := by
    obtain ⟨r, hopen, hrest, hfollows, -⟩ := hread d b h
    have hnames : rules.map Prod.fst = (fields b).map Prod.fst := map_fst_eq_of_follows hfollows
    have hextra := Document.forall_rest hopen hrest
    obtain ⟨object, hvalue, hdeclared, hothers⟩ :=
      Document.exists_value_of_openRecord? hopen hrest (exists_has_of_follows hfollows)
    rw [hnames] at hnodup hextra hdeclared hothers
    refine ⟨object.entries, writtenMembers (fields b) ++ (extra b).entries, hvalue, object.nodup_keys, hwrite b,
      nodup_written_append hnodup hextra, fun key => ?_⟩
    rw [lookup_written_append hnodup hextra]
    cases hrule : rules.lookup key with
    | none =>
      have hkey : key ∉ (fields b).map Prod.fst := hnames ▸ lookup_eq_none_iff_not_mem.1 hrule
      rw [if_neg hkey]
      exact (hothers key hkey).symm
    | some rule =>
      obtain ⟨written, hwritten, -, input, hinput, rfl⟩ := exists_field_of_follows hfollows hrule
      have hkey : key ∈ (fields b).map Prod.fst := List.mem_map_of_mem (mem_of_lookup_eq_some hwritten)
      have hobject : object.get? key = input := (hdeclared key hkey).eq_bind.trans hinput.eq_bind.symm
      rw [if_pos hkey, hwritten]
      exact congrArg rule.member hobject.symm
  reread {d b} h := by
    obtain ⟨r, hopen, hrest, hfollows, hreread⟩ := hread d b h
    have hnames : rules.map Prod.fst = (fields b).map Prod.fst := map_fst_eq_of_follows hfollows
    have hextra := Document.forall_rest hopen hrest
    rw [hnames] at hnodup hextra
    obtain ⟨r', hopen', hrest', hholds⟩ := exists_openRecord?_written hnodup hextra
    rw [hwrite b]
    exact hreread _ r' (hnames ▸ hopen') hrest' hholds

end Records

end EnergyGateway
