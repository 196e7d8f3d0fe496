import EnergyGateway.Proofs.Http.Url
import EnergyGateway.Proofs.Session.Tries

/-!
# Writes for one entry

The backends are asked to change or delete one entry of a collection under the address of the collection, a slash and
the id of the entry.  The id is not encoded, so the address is that of the entry just if the id is plain
(`Url.IsPlain`) and the base has neither `#` nor `?` (`Write.addressed_of_resource`).  Any other id is cut, goes on by
several segments, climbs or is read as another one: `site#2` deletes `site` (`Write.not_forall_isEntry`).
-/

namespace EnergyGateway

namespace Server

variable (server : Server)

/-- The base without the slashes at its end. -/
def bareBase : List Char := server.base.toList.rdropWhile (· == '/')

theorem mem_bareBase_iff {c : Char} (hc : c ≠ '/') : c ∈ server.bareBase ↔ c ∈ server.base.toList := by
  rw [bareBase, List.rdropWhile, List.mem_reverse, Url.mem_dropWhile_iff (by simpa using hc), List.mem_reverse]

theorem parse?_address (rest : String) :
    Url.parse? (server.address ("/api/" ++ rest)) =
      (Url.stem? server.bareBase).map (·.url (Url.back rest.toList)) := by
  rw [← Url.parse?_api]
  refine congrArg Url.parse? (String.toList_inj.1 ?_)
  simp [address, bareBase, List.rdropWhile]

/-- Where the collection has an address, so has the text that ends with an id.  It is that of the entry just if the id
is plain and the base has neither `#` nor `?`. -/
theorem exists_parse?_entry {name : String} (hname : Url.IsPlain name) {collection : Url}
    (h : Url.parse? (server.address ("/api/" ++ name)) = some collection) (id : String) :
    ∃ url, Url.parse? (server.address ("/api/" ++ name ++ "/" ++ id)) = some url ∧
      (url.IsEntry collection id ↔ Url.IsPlain id ∧ '#' ∉ server.base.toList ∧ '?' ∉ server.base.toList) := by
  rw [parse?_address] at h
  obtain ⟨stem, hstem, rfl⟩ := Option.map_eq_some_iff.1 h
  have hhash : '#' ∈ stem.text ↔ '#' ∈ server.base.toList :=
    (Url.mem_stem?_iff hstem (.inl rfl)).trans (server.mem_bareBase_iff (by decide))
  have hquestion : '?' ∈ stem.text ↔ '?' ∈ server.base.toList :=
    (Url.mem_stem?_iff hstem (.inr rfl)).trans (server.mem_bareBase_iff (by decide))
  have htext : (name ++ ("/" ++ id)).toList = name.toList ++ '/' :: id.toList := by simp
  refine ⟨stem.url (Url.back (name ++ ("/" ++ id)).toList), ?_, ?_⟩
  · rw [String.append_assoc, String.append_assoc, parse?_address, hstem]
    rfl
  · rw [htext, hname.back_eq, hname.back_append_slash, ← hhash, ← hquestion]
    constructor
    · intro hentry
      have hmarks : '#' ∉ stem.text ∧ '?' ∉ stem.text :=
        not_or.1 fun hmem => Url.Stem.not_isEntry hmem _ _ _ hentry
      exact ⟨(Url.Stem.isEntry_iff hmarks.1 hmarks.2 hname id).1 hentry, hmarks⟩
    · rintro ⟨hplain, hhash, hquestion⟩
      exact (Url.Stem.isEntry_iff hhash hquestion hname id).2 hplain

theorem parse?_entry_eq_none {name : String} (h : Url.parse? (server.address ("/api/" ++ name)) = none)
    (id : String) :
    Url.parse? (server.address ("/api/" ++ name ++ "/" ++ id)) = none := by
  rw [parse?_address, Option.map_eq_none_iff] at h
  rw [String.append_assoc, String.append_assoc, parse?_address, h]
  rfl

end Server

namespace Write

/-- The collection that a write is for, and the id of the entry in it. -/
def resource? : Write → Option (String × String)
  | changeInterface id _ => some (Action.interfacesPath, id)
  | changeConnection id _ | deleteConnection id => some (Action.connectionsPath, id)
  | post _ | createConnection _ | uploadCertificate .. => none

variable {σ : Type} {w w' : Write} {collection id id' : String}

theorem of_resource (h : w.resource? = some (collection, id)) (setup : Setup σ) (backend : Server) :
    (∃ name, Url.IsPlain name ∧ collection = "/api/" ++ name) ∧ w.path = collection ++ "/" ++ id ∧
      w.server setup backend = backend := by
  cases w with
  | changeInterface id u =>
    cases h
    exact ⟨⟨"network-config", by decide +kernel, by decide⟩, rfl, rfl⟩
  | changeConnection id c =>
    cases h
    exact ⟨⟨"connections", by decide +kernel, by decide⟩, rfl, rfl⟩
  | deleteConnection id =>
    cases h
    exact ⟨⟨"connections", by decide +kernel, by decide⟩, rfl, rfl⟩
  | post | createConnection | uploadCertificate => cases h

theorem parse?_of_request? {setup : Setup σ} {backend : Server} {request : Http.Request}
    (h : w.request? setup backend = some request) :
    Url.parse? ((w.server setup backend).address w.path) = some request.url := by
  rw [request?, Server.request?, Option.map_eq_some_iff] at h
  obtain ⟨url, hurl, rfl⟩ := h
  exact hurl

/-- What is promised of a write for an entry. -/
structure Addressed (w : Write) (setup : Setup σ) (backend : Server) (s : Session σ) (collection id : String) :
    Prop where
  /-- Where the collection has an address, one request is sent.  It goes to the entry just if the id is plain and the
  base has neither `#` nor `?`. -/
  sent : ∀ url, Url.parse? (backend.address collection) = some url →
    ∃ request, w.request? setup backend = some request ∧
      ((w.perform setup backend).after s).log = s.log ++ [.http request (w.answer setup backend s)] ∧
      (request.url.IsEntry url id ↔ Url.IsPlain id ∧ '#' ∉ backend.base.toList ∧ '?' ∉ backend.base.toList)
  /-- Where it has none, there is nothing to send. -/
  unsent : Url.parse? (backend.address collection) = none → ((w.perform setup backend).after s).log = s.log
  /-- Writes for different plain ids go to different addresses. -/
  apart : ∀ (w' : Write) (id' : String), w'.resource? = some (collection, id') → id ≠ id' →
    Url.IsPlain id → Url.IsPlain id' → '#' ∉ backend.base.toList → '?' ∉ backend.base.toList →
    ∀ request request', w.request? setup backend = some request → w'.request? setup backend = some request' →
      request.url ≠ request'.url

/-- The request for an entry goes to an address just if there is one for the collection. -/
theorem exists_request?_of_resource (h : w.resource? = some (collection, id)) (setup : Setup σ) (backend : Server) :
    (∀ url, Url.parse? (backend.address collection) = some url →
      ∃ request, w.request? setup backend = some request ∧
        (request.url.IsEntry url id ↔
          Url.IsPlain id ∧ '#' ∉ backend.base.toList ∧ '?' ∉ backend.base.toList)) ∧
    (Url.parse? (backend.address collection) = none → w.request? setup backend = none) := by
  obtain ⟨⟨name, hname, rfl⟩, hpath, hserver⟩ := of_resource h setup backend
  rw [request?, hserver, hpath, Server.request?]
  refine ⟨fun url hurl => ?_, fun hurl => ?_⟩
  · obtain ⟨entry, hentry, hiff⟩ := backend.exists_parse?_entry hname hurl id
    rw [hentry]
    exact ⟨_, rfl, hiff⟩
  · rw [backend.parse?_entry_eq_none hurl]
    rfl

/-- A write for an entry goes to the entry if the id is plain, and elsewhere if it is not. -/
theorem addressed_of_resource (h : w.resource? = some (collection, id)) (setup : Setup σ) (backend : Server)
    (s : Session σ) : w.Addressed setup backend s collection id := by
  obtain ⟨hsome, hnone⟩ := exists_request?_of_resource h setup backend
  have honce := w.sentOnce setup backend s
  refine ⟨fun url hurl => ?_, fun hurl => honce.unsent (hnone hurl), ?_⟩
  · obtain ⟨request, hrequest, hiff⟩ := hsome url hurl
    exact ⟨request, hrequest, honce.sent request hrequest, hiff⟩
  · intro w' id' h' hne hplain hplain' hhash hquestion request request' hrequest hrequest' heq
    obtain ⟨hsome', -⟩ := exists_request?_of_resource h' setup backend
    rcases hurl : Url.parse? (backend.address collection) with _ | url
    · rw [hnone hurl] at hrequest
      cases hrequest
    · obtain ⟨_, hr, hiff⟩ := hsome url hurl
      obtain ⟨_, hr', hiff'⟩ := hsome' url hurl
      cases hrequest.symm.trans hr
      cases hrequest'.symm.trans hr'
      have hentry := hiff.2 ⟨hplain, hhash, hquestion⟩
      have hentry' := hiff'.2 ⟨hplain', hhash, hquestion⟩
      rw [← heq] at hentry'
      exact hne (hentry.id_eq hentry')

private def box : Server := { base := "http://box/" }

private theorem parse?_connections_box :
    Url.parse? (box.address Action.connectionsPath) = some ⟨false, "box", ["api", "connections"], none⟩ := by
  decide +kernel

/-- A blank is sent encoded, so the id is read as it is. -/
theorem addressed_of_resource_blank :
    (deleteConnection "site 2").resource? = some (Action.connectionsPath, "site 2") ∧
      ∃ request answer,
        (((deleteConnection "site 2").perform (Simulation.setup .bundled) { base := "http://box/" }).after
            { remote := {} }).log = [.http request answer] ∧
          request.url.IsEntry ⟨false, "box", ["api", "connections"], none⟩ "site 2" := by
  obtain ⟨request, -, hlog, hiff⟩ := (addressed_of_resource (w := deleteConnection "site 2") rfl
    (Simulation.setup .bundled) box { remote := {} }).sent _ parse?_connections_box
  exact ⟨rfl, request, _, hlog, hiff.2 (by decide +kernel)⟩

/-- What stands behind a `#` is not sent: `site#2` deletes `site`. -/
theorem not_forall_isEntry :
    (¬ ∀ (setup : Setup Simulation) (backend : Server) (s : Session Simulation) (id : String) (url : Url), id ≠ "" →
      Url.parse? (backend.address Action.connectionsPath) = some url →
        ∃ request answer,
          (((deleteConnection id).perform setup backend).after s).log = s.log ++ [.http request answer] ∧
            request.url.IsEntry url id) ∧
    ¬ ∀ (setup : Setup Simulation) (backend : Server) (id id' : String), id ≠ "" → id' ≠ "" → id ≠ id' →
      ∀ request request', (deleteConnection id).request? setup backend = some request →
        (deleteConnection id').request? setup backend = some request' → request.url ≠ request'.url := by
  let setup := Simulation.setup .bundled
  have hsent (id : String) :
      ∃ request, (deleteConnection id).request? setup box = some request ∧
        (request.url.IsEntry ⟨false, "box", ["api", "connections"], none⟩ id → Url.IsPlain id) := by
    obtain ⟨request, hrequest, hiff⟩ :=
      (exists_request?_of_resource (w := deleteConnection id) rfl setup box).1 _ parse?_connections_box
    exact ⟨request, hrequest, fun hentry => (hiff.1 hentry).1⟩
  obtain ⟨request, hrequest, hplain⟩ := hsent "site#2"
  constructor
  · intro hall
    obtain ⟨request', answer, hlog, hentry⟩ :=
      hall setup box { remote := {} } "site#2" _ (by decide) parse?_connections_box
    rw [((deleteConnection "site#2").sentOnce setup box _).sent request hrequest] at hlog
    cases List.append_cancel_left hlog
    exact absurd (hplain hentry) (by decide +kernel)
  · intro hall
    obtain ⟨request', hrequest', -⟩ := hsent "site"
    have hurl := parse?_of_request? hrequest
    have hurl' := parse?_of_request? hrequest'
    have hsame : Url.parse? (box.address (deleteConnection "site#2").path) =
        Url.parse? (box.address (deleteConnection "site").path) := by
      decide +kernel
    exact hall setup box "site#2" "site" (by decide) (by decide) (by decide) _ _ hrequest hrequest'
      (Option.some.inj (hurl.symm.trans (hsame.trans hurl')))

end Write

end EnergyGateway
