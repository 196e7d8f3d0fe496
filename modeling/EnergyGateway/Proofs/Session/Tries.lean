import Mathlib.Data.ENat.Lattice
import EnergyGateway.Proofs.Session.Course
import EnergyGateway.Session.Console
import EnergyGateway.Session.Network
import EnergyGateway.Session.Tunnels
import EnergyGateway.Simulation.Line

/-!
# How often a request is sent

What is tried several times ends as its first attempt that succeeds, or else as the last one
(`Action.exists_tryUpTo_eq`).  A read tries to send its request, so it is sent until it is answered, at most as often as
its server says (`Read.exists_attempted`).  What changes something is sent once (`Write.sentOnce`).  Where an address is
none, the attempts are made all the same, but there is nothing to send.
-/

namespace EnergyGateway

variable {σ α : Type}

/-- The request under a path, if the address is one. -/
def Server.request? (server : Server) (method : Http.Method) (path : String) (payload : Http.Payload) :
    Option Http.Request :=
  (Url.parse? (server.address path)).map fun url => ⟨method, url, server.authorization, payload⟩

namespace Line

/-- How a request is answered if it is sent in a session. -/
def answer (line : Line σ) (request : Option Http.Request) (s : Session σ) : Option Http.Response :=
  request.bind fun r => (line.serve r s.remote).1

/-- What an attempt to send a request exchanges. -/
def sent (line : Line σ) (request : Option Http.Request) (s : Session σ) : List Exchange :=
  request.toList.map fun r => .http r (line.answer request s)

end Line

/-- The position of the first answer, counted from one. -/
noncomputable def firstAnswered (answers : ℕ → Option α) : ℕ∞ :=
  ⨅ (n : ℕ) (_ : (answers n).isSome), ((n + 1 : ℕ) : ℕ∞)

section firstAnswered

variable {answers : ℕ → Option α} {n : ℕ}

theorem lt_firstAnswered (h : ∀ m < n, answers m = none) : (n : ℕ∞) < firstAnswered answers := by
  have hle : ((n + 1 : ℕ) : ℕ∞) ≤ firstAnswered answers := by
    refine le_iInf₂ fun m hm => ?_
    have hnm : n ≤ m := by
      by_contra! hlt
      simp [h m hlt] at hm
    exact_mod_cast Nat.succ_le_succ hnm
  exact lt_of_lt_of_le (by exact_mod_cast Nat.lt_succ_self n) hle

theorem firstAnswered_eq (h : ∀ m < n, answers m = none) (hn : (answers n).isSome) :
    firstAnswered answers = (n + 1 : ℕ) := by
  refine le_antisymm (iInf₂_le n hn) ?_
  exact_mod_cast Order.add_one_le_of_lt (lt_firstAnswered h)

end firstAnswered

namespace Action

/-! ### What is tried several times -/

section tryUpTo

variable {pause : Action σ Unit} {attempt : Action σ α} {s : Session σ}

theorem Still.eq_ok (h : pause.Still) (s : Session σ) : pause s = .ok () (pause.after s) := by
  obtain ⟨-, -, ⟨x, ho⟩, -⟩ := h s
  rcases hrun : pause s with ⟨_, s'⟩ | ⟨f, s'⟩
  · rw [(outcome_eq_ok hrun).2]
  · rw [(outcome_eq_error hrun).1] at ho
    cases ho

/-- The session before an attempt, counted from zero, if all attempts before it fail. -/
def beforeAttempt (pause : Action σ Unit) (attempt : Action σ α) (s : Session σ) (n : ℕ) : Session σ :=
  (fun s => pause.after (attempt.after s))^[n] s

/-- What is tried several times ends as its first attempt that succeeds, or else as the last one. -/
theorem exists_tryUpTo_eq (attempt : Action σ α) (hpause : pause.Still) {tries : ℕ} (htries : 0 < tries)
    (s : Session σ) :
    ∃ n < tries, tryUpTo pause attempt tries s = attempt (beforeAttempt pause attempt s n) ∧
      (∀ m < n, ∃ f, attempt.outcome (beforeAttempt pause attempt s m) = .error f) ∧
      (n + 1 < tries → ∃ x, attempt.outcome (beforeAttempt pause attempt s n) = .ok x) := by
  induction tries using tryUpTo.induct generalizing s with
  | case1 => exact absurd htries (Nat.lt_irrefl 0)
  | case2 =>
    exact ⟨0, Nat.one_pos, rfl, fun m hm => absurd hm (Nat.not_lt_zero m), fun hlt => absurd hlt (Nat.lt_irrefl 1)⟩
  | case3 tries ih =>
    rcases h : attempt s with ⟨x, s'⟩ | ⟨f, s'⟩
    · exact ⟨0, Nat.succ_pos _, (tryCatch_of_ok h _).trans h.symm, fun m hm => absurd hm (Nat.not_lt_zero m),
        fun _ => ⟨x, (outcome_eq_ok h).1⟩⟩
    · obtain ⟨n, hn, heq, hfailed, hdone⟩ := ih (Nat.succ_pos _) (pause.after s')
      -- an attempt after the first one is an attempt in the session that the pause leaves
      have hshift (m : ℕ) :
          beforeAttempt pause attempt s (m + 1) = beforeAttempt pause attempt (pause.after s') m := by
        rw [beforeAttempt, Function.iterate_succ_apply, (outcome_eq_error h).2, beforeAttempt]
      refine ⟨n + 1, Nat.succ_lt_succ hn, ?_, ?_, fun hlt => ?_⟩
      · rw [hshift, ← heq, tryUpTo, tryCatch_of_error h, bind_of_ok (hpause.eq_ok s')]
      · rintro (_ | m) hm
        · exact ⟨f, (outcome_eq_error h).1⟩
        · rw [hshift]
          exact hfailed m (Nat.lt_of_succ_lt_succ hm)
      · rw [hshift]
        exact hdone (Nat.lt_of_succ_lt_succ hlt)

/-- Attempts add to the log what each of them exchanges. -/
theorem log_beforeAttempt {exchanges : Session σ → List Exchange} (hpause : pause.Still)
    (hattempt : ∀ s, (attempt.after s).log = s.log ++ exchanges s) (n : ℕ) :
    (beforeAttempt pause attempt s n).log =
      s.log ++ (List.range n).flatMap fun m => exchanges (beforeAttempt pause attempt s m) := by
  induction n with
  | zero => simp [beforeAttempt]
  | succ n ih =>
    have hquiet (s : Session σ) : (pause.after s).log = s.log := by
      obtain ⟨_, hlog, -, rfl⟩ := hpause s
      rw [hlog, List.append_nil]
    rw [beforeAttempt, Function.iterate_succ_apply', ← beforeAttempt, hquiet, hattempt, ih, List.range_succ,
      List.flatMap_append, List.flatMap_singleton, List.append_assoc]

end tryUpTo

/-! ### One attempt -/

theorem eq_none_of_answered {answer : Option Http.Response} {f : Failure} (h : answered answer = .error f) :
    answer = none := by
  cases answer <;> first | rfl | cases h

theorem isSome_of_answered {answer : Option Http.Response} {x : Http.Response} (h : answered answer = .ok x) :
    answer.isSome := by
  cases answer <;> first | rfl | cases h

variable (line : Line σ) (server : Server) (method : Http.Method) (path : String) (payload : Http.Payload)
  (s : Session σ)

theorem submit_eq :
    submit line server method path payload s =
      match server.request? method path payload with
      | some r => send line r s
      | none => .error .http s := by
  rw [submit, Server.request?, request]
  rcases Url.parse? (server.address path) with _ | url <;> rfl

/-- An attempt comes to what is answered. -/
theorem outcome_submit :
    (submit line server method path payload).outcome s =
      answered (line.answer (server.request? method path payload) s) := by
  rw [outcome, submit_eq]
  rcases server.request? method path payload with _ | r
  · rfl
  · rcases h : line.serve r s.remote with ⟨_ | response, remote⟩ <;> simp [send, Line.answer, answered, h]

/-- The exchange of an attempt is all that it adds to the log. -/
theorem log_submit :
    ((submit line server method path payload).after s).log =
      s.log ++ line.sent (server.request? method path payload) s := by
  rw [after, submit_eq]
  rcases server.request? method path payload with _ | r
  · exact (List.append_nil _).symm
  · rcases h : line.serve r s.remote with ⟨_ | response, remote⟩ <;> simp [send, Line.sent, Line.answer, h]

/-- What is read from the answer of an action decides how it ends, and changes nothing. -/
theorem bind_ofExcept_eq {β : Type} (a : Action σ α) (g : α → Except Failure β) :
    (a >>= fun x => ofExcept (g x)).outcome s = a.outcome s >>= g ∧
      (a >>= fun x => ofExcept (g x)).after s = a.after s := by
  rcases h : a s with ⟨x, s'⟩ | ⟨f, s'⟩
  · rw [outcome, after, bind_of_ok h, (outcome_eq_ok h).1, (outcome_eq_ok h).2]
    show _ = g x ∧ _
    cases g x <;> exact ⟨rfl, rfl⟩
  · rw [outcome, after, bind_of_error h, (outcome_eq_error h).1, (outcome_eq_error h).2]
    exact ⟨rfl, rfl⟩

end Action

/-! ### Reads -/

/-- The reads of the three clients. -/
inductive Read where
  | listings
  | description (pid : String)
  | interfaces
  | connections
  | certificates

namespace Read

/-- What is read. -/
def Result : Read → Type
  | listings => List Listing
  | description _ => Json
  | interfaces => List Interface
  | connections => List Connection
  | certificates => List Certificate

/-- The configuration manager is asked at the console, all else at a backend. -/
def server (setup : Setup σ) (backend : Server) : Read → Server
  | listings | description _ => setup.console
  | interfaces | connections | certificates => backend

def path : Read → String
  | listings => managerPath
  | description pid => managerPath ++ "/" ++ pid ++ ".json"
  | interfaces => Action.interfacesPath
  | connections => Action.connectionsPath
  | certificates => Action.certificatesPath

/-- What is read from an answer. -/
def decode : (r : Read) → Http.Response → Except Failure r.Result
  | listings, answer => answer.text.map Listing.ofPage
  | description _, answer => answer.decode Document.value?
  | interfaces, answer => answer.decode (Document.list Interface.read)
  | connections, answer => answer.decode (Document.list Connection.read)
  | certificates, answer => answer.decode (Document.list Certificate.read)

def perform (setup : Setup σ) (backend : Server) : (r : Read) → Action σ r.Result
  | listings => Action.listings setup
  | description pid => Action.describe setup pid
  | interfaces => Action.interfaces setup.line backend
  | connections => Action.connections setup.line backend
  | certificates => Action.certificates setup.line backend

variable (r : Read) (setup : Setup σ) (backend : Server) (s : Session σ)

/-- The request, if the address is one. -/
def request? : Option Http.Request := (r.server setup backend).request? .get r.path .none

/-- One attempt to send the request. -/
def attempt : Action σ Http.Response := Action.submit setup.line (r.server setup backend) .get r.path .none

theorem perform_eq :
    r.perform setup backend =
      Action.tryUpTo (Action.await setup.line) (r.attempt setup backend) (r.server setup backend).tries >>=
        fun answer => Action.ofExcept (r.decode answer) := by
  cases r with
  | listings =>
    refine congrArg (Action.fetch _ _ _ >>= ·) (funext fun answer => ?_)
    rw [decode]
    rcases answer.text with f | page <;> rfl
  | description | interfaces | connections | certificates => rfl

/-- The session before an attempt, counted from zero, if all attempts before it fail. -/
def before (n : ℕ) : Session σ :=
  Action.beforeAttempt (Action.await setup.line) (r.attempt setup backend) s n

/-- The answer to an attempt. -/
def answer (n : ℕ) : Option Http.Response :=
  setup.line.answer (r.request? setup backend) (r.before setup backend s n)

/-- What an attempt exchanges. -/
def sent (n : ℕ) : List Exchange :=
  setup.line.sent (r.request? setup backend) (r.before setup backend s n)

theorem sent_of_some {request : Http.Request} (h : r.request? setup backend = some request) (n : ℕ) :
    r.sent setup backend s n = [.http request (r.answer setup backend s n)] := by
  rw [sent, answer, h]
  rfl

theorem sent_of_none (h : r.request? setup backend = none) (n : ℕ) : r.sent setup backend s n = [] := by
  rw [sent, h]
  rfl

theorem outcome_attempt (n : ℕ) :
    (r.attempt setup backend).outcome (r.before setup backend s n) =
      Action.answered (r.answer setup backend s n) := Action.outcome_submit ..

theorem log_attempt (n : ℕ) :
    ((r.attempt setup backend).after (r.before setup backend s n)).log =
      s.log ++ (List.range (n + 1)).flatMap (r.sent setup backend s) := by
  have hbefore := Action.log_beforeAttempt (s := s) (Action.still_await setup.line)
    (Action.log_submit setup.line (r.server setup backend) .get r.path .none) n
  rw [attempt, Action.log_submit, before, attempt, hbefore, List.append_assoc, List.range_succ, List.flatMap_append,
    List.flatMap_singleton]
  rfl

/-- A read ends with one of its attempts, the first that is answered or else the last. -/
theorem exists_last :
    ∃ n < (r.server setup backend).tries,
      ((r.perform setup backend).after s).log =
        s.log ++ (List.range (n + 1)).flatMap (r.sent setup backend s) ∧
      (r.perform setup backend).outcome s = Action.answered (r.answer setup backend s n) >>= r.decode ∧
      (∀ m < n, r.answer setup backend s m = none) ∧
      (n + 1 < (r.server setup backend).tries → (r.answer setup backend s n).isSome) := by
  have htries : 0 < (r.server setup backend).tries := lt_max_of_lt_right Nat.one_pos
  obtain ⟨n, hn, hrun, hfailed, hdone⟩ := Action.exists_tryUpTo_eq (r.attempt setup backend)
    (Action.still_await setup.line) htries s
  rw [← before] at hrun
  rw [← before, outcome_attempt] at hdone
  obtain ⟨houtcome, hafter⟩ := Action.bind_ofExcept_eq s
    (Action.tryUpTo (Action.await setup.line) (r.attempt setup backend) (r.server setup backend).tries) r.decode
  refine ⟨n, hn, ?_, ?_, fun m hm => ?_, fun hlt => ?_⟩
  · rw [perform_eq, hafter, Action.after, hrun, ← Action.after, log_attempt]
  · rw [perform_eq, houtcome, Action.outcome, hrun, ← Action.outcome, outcome_attempt]
  · obtain ⟨f, hf⟩ := hfailed m hm
    rw [← before, outcome_attempt] at hf
    exact Action.eq_none_of_answered hf
  · obtain ⟨x, hx⟩ := hdone hlt
    exact Action.isSome_of_answered hx

/-- What is promised of a read, by how often it is attempted. -/
structure Attempted (count : ℕ) : Prop where
  /-- It is attempted until it is answered, at most as often as its server says and at least once. -/
  count_eq : (count : ℕ∞) =
    min (firstAnswered (r.answer setup backend s)) (max (r.server setup backend).maxTries 1 : ℕ)
  /-- Each attempt sends the request once, and nothing else is sent. -/
  sent : ∀ request, r.request? setup backend = some request → ((r.perform setup backend).after s).log =
    s.log ++ (List.range count).map fun n => .http request (r.answer setup backend s n)
  /-- Where the address is none, there is nothing to send. -/
  unsent : r.request? setup backend = none → ((r.perform setup backend).after s).log = s.log
  /-- If an attempt is answered, its answer is what the read comes to, whatever the status. -/
  answered : firstAnswered (r.answer setup backend s) ≤ (max (r.server setup backend).maxTries 1 : ℕ) →
    ∃ answer, r.answer setup backend s (count - 1) = some answer ∧
      (r.perform setup backend).outcome s = r.decode answer
  /-- If none is, the read fails. -/
  unanswered : (max (r.server setup backend).maxTries 1 : ℕ) < firstAnswered (r.answer setup backend s) →
    (r.perform setup backend).outcome s = .error .http

theorem exists_attempted : ∃ count, r.Attempted setup backend s count := by
  obtain ⟨n, hn, hlog, houtcome, hfailed, hdone⟩ := r.exists_last setup backend s
  have hsent (request : Http.Request) (hrequest : r.request? setup backend = some request) :
      ((r.perform setup backend).after s).log =
        s.log ++ (List.range (n + 1)).map fun n => .http request (r.answer setup backend s n) := by
    rw [hlog, List.map_eq_flatMap, funext (r.sent_of_some setup backend s hrequest)]
  have hunsent (hrequest : r.request? setup backend = none) :
      ((r.perform setup backend).after s).log = s.log := by
    rw [hlog, List.flatMap_eq_nil_iff.2 fun n _ => r.sent_of_none setup backend s hrequest n, List.append_nil]
  rw [Server.tries] at hn hdone
  refine ⟨n + 1, ?_⟩
  rcases hanswer : r.answer setup backend s n with _ | answer
  · have hlast : n + 1 = max (r.server setup backend).maxTries 1 := by
      rw [hanswer] at hdone
      simp only [Option.isSome_none, Bool.false_eq_true, imp_false, not_lt] at hdone
      omega
    have hlate : ((n + 1 : ℕ) : ℕ∞) < firstAnswered (r.answer setup backend s) := by
      refine lt_firstAnswered fun m hm => ?_
      rcases Nat.lt_succ_iff_lt_or_eq.1 hm with hm | rfl
      · exact hfailed m hm
      · exact hanswer
    rw [hlast] at hlate hsent
    refine ⟨?_, ?_, hunsent, fun hle => absurd hle (not_le.2 hlate), fun _ => ?_⟩
    · rw [hlast, min_eq_right hlate.le]
    · rwa [hlast]
    · rw [houtcome, hanswer]
      rfl
  · have hfirst := firstAnswered_eq hfailed (Option.isSome_iff_exists.2 ⟨answer, hanswer⟩)
    have hle : firstAnswered (r.answer setup backend s) ≤ (max (r.server setup backend).maxTries 1 : ℕ) := by
      rw [hfirst]
      exact_mod_cast hn
    refine ⟨?_, hsent, hunsent, fun _ => ⟨answer, hanswer, ?_⟩, fun hlt => absurd hle (not_le.2 hlt)⟩
    · rw [min_eq_left hle, hfirst]
    · rw [houtcome, hanswer]
      rfl

end Read

/-! ### Writes -/

/-- What the three clients can have done. -/
inductive Write where
  | post (p : Posting)
  | changeInterface (id : String) (u : InterfaceUpdate)
  | createConnection (c : Connection)
  | changeConnection (id : String) (c : Connection)
  | deleteConnection (id : String)
  | uploadCertificate (name : String) (contents : ByteArray)

namespace Write

/-- What comes back. -/
def Result : Write → Type
  | post _ => String
  | changeInterface .. => Interface
  | createConnection _ | changeConnection .. | uploadCertificate .. => Json
  | deleteConnection _ => Unit

/-- Forms are posted to the console, all else goes to a backend. -/
def server (setup : Setup σ) (backend : Server) : Write → Server
  | post _ => setup.console
  | _ => backend

def method : Write → Http.Method
  | post _ | changeInterface .. | createConnection _ | uploadCertificate .. => .post
  | changeConnection .. => .put
  | deleteConnection _ => .delete

def path : Write → String
  | post p => managerPath ++ "/" ++ p.place
  | changeInterface id _ => Action.interfacesPath ++ "/" ++ id
  | createConnection _ => Action.connectionsPath
  | changeConnection id _ | deleteConnection id => Action.connectionPath id
  | uploadCertificate .. => Action.certificatesPath ++ "/upload"

def payload : Write → Http.Payload
  | post p => .form p.form
  | changeInterface _ u => .json u.json
  | createConnection c | changeConnection _ c => .json c.json
  | deleteConnection _ => .none
  | uploadCertificate name contents => .file name contents

/-- What is read from an answer. -/
def decode : (w : Write) → Http.Response → Except Failure w.Result
  | post _, answer => answer.text
  | changeInterface .., answer => answer.decode Interface.read
  | createConnection _, answer | changeConnection .., answer | uploadCertificate .., answer =>
    answer.decode Document.value?
  | deleteConnection _, answer => answer.accepted.map fun _ => ()

def perform (setup : Setup σ) (backend : Server) : (w : Write) → Action σ w.Result
  | post p => Action.post setup p
  | changeInterface id u => Action.updateInterface setup.line backend id u
  | createConnection c => Action.createConnection setup.line backend c
  | changeConnection id c => Action.updateConnection setup.line backend id c
  | deleteConnection id => Action.deleteConnection setup.line backend id
  | uploadCertificate name contents => Action.uploadCertificate setup.line backend name contents

variable (w : Write) (setup : Setup σ) (backend : Server) (s : Session σ)

/-- The request, if the address is one. -/
def request? : Option Http.Request := (w.server setup backend).request? w.method w.path w.payload

/-- The answer to the only attempt. -/
def answer : Option Http.Response := setup.line.answer (w.request? setup backend) s

theorem perform_eq :
    w.perform setup backend =
      Action.submit setup.line (w.server setup backend) w.method w.path w.payload >>= fun answer =>
        Action.ofExcept (w.decode answer) := by
  cases w with
  | deleteConnection id =>
    refine congrArg (Action.submit _ _ _ _ _ >>= ·) (funext fun answer => ?_)
    rw [decode]
    rcases answer.accepted with f | response <;> rfl
  | post | changeInterface | createConnection | changeConnection | uploadCertificate => rfl

/-- What is promised of a write. -/
structure SentOnce : Prop where
  /-- Its request is sent once, answered or not, and nothing else is sent. -/
  sent : ∀ request, w.request? setup backend = some request →
    ((w.perform setup backend).after s).log = s.log ++ [.http request (w.answer setup backend s)]
  /-- Where the address is none, there is nothing to send. -/
  unsent : w.request? setup backend = none → ((w.perform setup backend).after s).log = s.log
  /-- It comes to what is answered. -/
  outcome_eq : (w.perform setup backend).outcome s = Action.answered (w.answer setup backend s) >>= w.decode

theorem sentOnce : w.SentOnce setup backend s := by
  obtain ⟨houtcome, hafter⟩ := Action.bind_ofExcept_eq s
    (Action.submit setup.line (w.server setup backend) w.method w.path w.payload) w.decode
  have hlog : ((w.perform setup backend).after s).log = s.log ++ setup.line.sent (w.request? setup backend) s := by
    rw [perform_eq, hafter, Action.log_submit, request?]
  refine ⟨fun request hrequest => ?_, fun hrequest => ?_, ?_⟩
  · rw [hlog, answer, hrequest]
    rfl
  · rw [hlog, hrequest]
    exact List.append_nil _
  · rw [perform_eq, houtcome, Action.outcome_submit, answer, request?]

end Write

/-- Reads are attempted until they are answered, as often as their server says at most; writes are sent once. -/
theorem attempted_and_sentOnce (setup : Setup σ) (backend : Server) (s : Session σ) :
    (∀ r : Read, ∃ count, r.Attempted setup backend s count) ∧ ∀ w : Write, w.SentOnce setup backend s :=
  ⟨fun r => r.exists_attempted setup backend s, fun w => w.sentOnce setup backend s⟩

/-- A server that drops two requests is asked three times, and once by who allows no other try. -/
example :
    let server : SimulatedServer := { routes := [{ method := "GET", path := "*", drops := 2 }] }
    let tries (n : Nat) := (Action.interfaces Simulation.line { base := "http://box", maxTries := n }).after
      { remote := { server } }
    (tries 3).log.length = 3 ∧ (tries 5).log.length = 3 ∧ (tries 0).log.length = 1 := by
  decide +kernel

end EnergyGateway
