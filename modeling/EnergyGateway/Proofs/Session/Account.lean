import EnergyGateway.Proofs.Digest
import EnergyGateway.Proofs.Session.Atomicity
import EnergyGateway.Session.Login
import EnergyGateway.Simulation.Line

/-!
# Logging in, logging out, and the password

Over any calls of the account, and whatever the edge and the configuration manager answer, a session is logged in
exactly if the last login succeeded and nothing has ended it since: neither a logout nor a change of the password that
succeeded (`performAll_conforms`).  A change that fails is no end, wherever it fails.  A change writes nothing but the
form of the account, once, and only after the edge accepted the current password in the same call.
-/

namespace EnergyGateway

namespace Action

variable {σ α β : Type} (setup : Setup σ)

/-! ### The mark of a login -/

/-- No run of the action logs in or out. -/
def KeepsLogin (a : Action σ α) : Prop := ∀ s, (a.after s).loggedIn = s.loggedIn

theorem after_bind_of_ok {a : Action σ α} {s s' : Session σ} {x : α} (h : a s = .ok x s') (g : α → Action σ β) :
    (a >>= g).after s = (g x).after s' ∧ (a >>= g).outcome s = (g x).outcome s' := by
  rw [after, outcome, bind_of_ok h]
  exact ⟨rfl, rfl⟩

theorem KeepsLogin.bind {a : Action σ α} {g : α → Action σ β} (ha : a.KeepsLogin) (hg : ∀ x, (g x).KeepsLogin) :
    (a >>= g).KeepsLogin := by
  intro s
  have hs := ha s
  rcases h : a s with ⟨x, s'⟩ | ⟨f, s'⟩
  · rw [(after_bind_of_ok h g).1, hg x s', ← hs, (outcome_eq_ok h).2]
  · rw [(outcome_eq_error (bind_of_error h g)).2, ← hs, (outcome_eq_error h).2]

theorem KeepsLogin.tryCatch {a : Action σ α} {g : Failure → Action σ α} (ha : a.KeepsLogin)
    (hg : ∀ f, (g f).KeepsLogin) : (tryCatch a g).KeepsLogin := by
  intro s
  have hs := ha s
  rcases h : a s with ⟨x, s'⟩ | ⟨f, s'⟩
  · rw [(outcome_eq_ok (tryCatch_of_ok h g)).2, ← hs, (outcome_eq_ok h).2]
  · rw [after, tryCatch_of_error h g, ← after, hg f s', ← hs, (outcome_eq_error h).2]

theorem keepsLogin_pure (x : α) : (pure x : Action σ α).KeepsLogin := fun _ => rfl

theorem keepsLogin_throw (f : Failure) : (throw f : Action σ α).KeepsLogin := fun _ => rfl

theorem keepsLogin_ofExcept (r : Except Failure α) : (ofExcept r : Action σ α).KeepsLogin := by
  cases r with
  | ok x => exact keepsLogin_pure x
  | error f => exact keepsLogin_throw f

theorem keepsLogin_call (method : String) (params : Json) : (call setup.line method params).KeepsLogin := by
  intro s
  rcases h : setup.line.call method params s.remote with ⟨f | x, messages, remote⟩ <;> simp [call, after, h]

theorem keepsLogin_submit (server : Server) (method : Http.Method) (path : String) (payload : Http.Payload) :
    (submit setup.line server method path payload).KeepsLogin := by
  refine KeepsLogin.bind ?_ fun r s => ?_
  · unfold request
    split
    · exact keepsLogin_pure _
    · exact keepsLogin_throw _
  · rcases h : setup.line.serve r s.remote with ⟨_ | response, remote⟩ <;> simp [send, after, h]

theorem keepsLogin_post (p : Posting) : (post setup p).KeepsLogin :=
  KeepsLogin.bind (keepsLogin_submit setup _ _ _ _) fun response => keepsLogin_ofExcept response.text

theorem keepsLogin_authenticate (user password : String) : (authenticate setup user password).KeepsLogin := by
  refine KeepsLogin.tryCatch ?_ fun f => ?_
  · rw [discard_eq_bind]
    exact KeepsLogin.bind (keepsLogin_call setup _ _) fun _ => keepsLogin_pure ()
  · split
    · exact keepsLogin_throw _
    · exact keepsLogin_throw _

/-- A login that succeeds leaves the session logged in, one that fails does not. -/
theorem loggedIn_login (user password : String) (s : Session σ) :
    ((login setup user password).after s).loggedIn = ((login setup user password).outcome s).isOk := by
  rcases h : authenticate setup user password s with ⟨⟨⟩, s'⟩ | ⟨f, s'⟩
  · have hlogin : login setup user password s = .ok () { s' with loggedIn := true } :=
      bind_of_ok (tryCatch_of_ok h _) _
    rw [after, outcome, hlogin]
    rfl
  · have hcaught : tryCatch (authenticate setup user password) (fun f => do setLoggedIn false; throw f) s =
        .error f { s' with loggedIn := false } := tryCatch_of_error h _
    have hlogin : login setup user password s = .error f { s' with loggedIn := false } := bind_of_error hcaught _
    rw [after, outcome, hlogin]
    rfl

/-! ### What is exchanged -/

/-- What the edge is asked when it checks a password. -/
def credentials (user password : String) : Json := .object [("username", .string user), ("password", .string password)]

/-- What comes of a password of which the edge said this. -/
def checkedBy : Except Failure Json → Except Failure Unit
  | .ok _ => .ok ()
  | .error (.rpc ..) => .error .authenticationFailed
  | .error f => .error f

/-- The edge was asked once to check a password, and this came of it. -/
def Asked (user password : String) (o : Except Failure Unit) (es : List Exchange) : Prop :=
  ∃ answer, es = [.rpc Rpc.authenticate (credentials user password) answer] ∧ o = checkedBy answer

theorem adds_authenticate (user password : String) :
    (authenticate setup user password).Adds (Asked user password) := by
  simp only [authenticate, discard_eq_bind]
  refine Adds.tryCatch (P := fun o es => ∃ answer : Except Failure Json,
    es = [.rpc Rpc.authenticate (credentials user password) answer] ∧ o = answer.map fun _ => ()) ?_ ?_ ?_
  · refine Adds.bind (adds_call setup.line _ _) ?_ ?_
    · rintro f es rfl
      exact ⟨.error f, rfl, rfl⟩
    · rintro x es rfl
      exact adds_pure ⟨.ok x, rfl, rfl⟩
  · rintro ⟨⟩ es ⟨_ | x, rfl, ho⟩
    · cases ho
    · exact ⟨.ok x, rfl, rfl⟩
  · rintro f es ⟨f' | x, rfl, ho⟩
    · cases ho
      split
      · exact adds_throw ⟨_, rfl, rfl⟩
      · rename_i hrpc
        refine adds_throw ⟨_, rfl, ?_⟩
        cases f with
        | rpc code message => exact absurd rfl (hrpc code message)
        | _ => rfl
    · cases ho

theorem still_setLoggedIn (b : Bool) : (setLoggedIn b : Action σ Unit).Still :=
  fun _ => ⟨[], (List.append_nil _).symm, ⟨(), rfl⟩, rfl⟩

theorem adds_login (user password : String) : (login setup user password).Adds (Asked user password) := by
  have hcaught : (tryCatch (authenticate setup user password) fun f => do setLoggedIn false; throw f).Adds
      (Asked user password) := by
    refine (adds_authenticate setup user password).tryCatch (fun _ _ h => h) fun f es h => ?_
    exact (still_setLoggedIn false).bind fun _ => adds_throw (by rwa [List.append_nil])
  refine hcaught.bind (fun _ _ h => h) fun _ es h => ?_
  refine (still_setLoggedIn true).mono ?_
  rintro o es' ⟨⟨⟨⟩, rfl⟩, rfl⟩
  rwa [List.append_nil]

/-- The form that gives the account a new password. -/
def accountForm (password : String) : Form where
  fields := [("apply", "true"), ("factoryPid", "Controller.io.openems.edge.account.config"), ("id", "admin"),
    ("alias", passwordDigest password), ("propertylist", "id,alias")]

/-- The digest of a password always passes the check of the account. -/
theorem isDigest_passwordDigest (password : String) : Configuration.isDigest (passwordDigest password) := by
  rw [Configuration.isDigest, passwordDigest, Sha256.length_hex, Bool.and_eq_true, List.all_eq_true]
  refine ⟨rfl, fun c hc => ?_⟩
  have hlower := Sha256.isLowerHex_of_mem_hex hc
  rw [Sha256.isLowerHex, Bool.or_eq_true] at hlower
  rw [Configuration.isHexDigit, Bool.or_assoc, Bool.or_left_comm]
  rcases hlower with h | h <;> simp [h]

theorem creation_account (password : String) : Posting.creation (.account ⟨passwordDigest password⟩) =
    .ok ⟨Configuration.accountFactory, accountForm password⟩ := by
  have hform : Configuration.createForm (.account ⟨passwordDigest password⟩) = .ok (accountForm password) := by
    rw [Configuration.createForm, Configuration.validate, if_pos (isDigest_passwordDigest password)]
    rfl
  rw [Posting.creation, hform]
  rfl

/-- Changing the password up to the point where it was done. -/
def replacePassword (current new : String) : Action σ Unit := do
  authenticate setup Configuration.accountId current
  discard (post setup ⟨Configuration.accountFactory, accountForm new⟩)

theorem changePassword_eq {current new : String} (h : new ≠ "") :
    changePassword setup current new = replacePassword setup current new >>= fun _ => logout := by
  have hnew : ¬ new.isEmpty := by simpa using h
  unfold changePassword replacePassword
  rw [creation_account, if_neg hnew, bind_assoc]
  simp only [ofExcept, pure_bind]

/-- The courses that changing a password can take: the edge does not accept the current one, the form has no address,
its posting fails, or its posting is done. -/
inductive Replacement (current new : String) : Except Failure Unit → List Exchange → Prop
  | rejected {answer f} (h : checkedBy answer = .error f) :
      Replacement current new (.error f) [.rpc Rpc.authenticate (credentials Configuration.accountId current) answer]
  | unsent {x} : Replacement current new (.error .http)
      [.rpc Rpc.authenticate (credentials Configuration.accountId current) (.ok x)]
  | failed {x w f} (hw : Posting.SentAs setup ⟨Configuration.accountFactory, accountForm new⟩ w)
      (hdone : ¬ w.isDonePosting) (hf : ¬ f.isRefusal) : Replacement current new (.error f)
      [.rpc Rpc.authenticate (credentials Configuration.accountId current) (.ok x), w]
  | done {x w} (hw : Posting.SentAs setup ⟨Configuration.accountFactory, accountForm new⟩ w)
      (hdone : w.isDonePosting) : Replacement current new (.ok ())
      [.rpc Rpc.authenticate (credentials Configuration.accountId current) (.ok x), w]

theorem adds_replacePassword (current new : String) :
    (replacePassword setup current new).Adds (Replacement setup current new) := by
  refine (adds_authenticate setup Configuration.accountId current).bind ?_ ?_
  · rintro f es ⟨answer, rfl, ho⟩
    exact .rejected ho.symm
  · rintro ⟨⟩ es ⟨answer | x, rfl, ho⟩
    · cases answer <;> cases ho
    · rw [discard_eq_bind]
      refine (adds_post setup _).bind ?_ ?_
      · rintro f es (⟨rfl, ho⟩ | ⟨w, rfl, hw, ⟨-, body, ho⟩ | ⟨hdone, f', ho, hf⟩⟩)
        · cases ho
          exact .unsent
        · cases ho
        · cases ho
          exact .failed hw hdone hf
      · rintro body es (⟨-, ho⟩ | ⟨w, rfl, hw, ⟨hdone, -⟩ | ⟨-, f, ho, -⟩⟩)
        · cases ho
        · exact adds_pure (.done hw hdone)
        · cases ho

theorem adds_changePassword {current new : String} (h : new ≠ "") :
    (changePassword setup current new).Adds (Replacement setup current new) := by
  rw [changePassword_eq setup h]
  refine (adds_replacePassword setup current new).bind (fun _ _ h => h) fun _ es h => ?_
  refine (still_setLoggedIn false).mono ?_
  rintro o es' ⟨⟨⟨⟩, rfl⟩, rfl⟩
  rwa [List.append_nil]

namespace Replacement

variable {setup : Setup σ} {current new : String} {o : Except Failure Unit} {es : List Exchange}

theorem eq_ok_iff (h : Replacement setup current new o es) : o = .ok () ↔ ∃ w ∈ es, w.isDonePosting := by
  have herror {f : Failure} : (Except.error f : Except Failure Unit) ≠ .ok () := by
    rintro ⟨⟩
  cases h with
  | rejected => simp [herror, Exchange.isDonePosting]
  | unsent => simp [herror, Exchange.isDonePosting]
  | failed hw hdone =>
    refine ⟨fun ho => absurd ho herror, ?_⟩
    rintro ⟨w, hmem, hd⟩
    rcases List.mem_cons.1 hmem with rfl | hmem
    · cases hd
    · exact absurd (List.mem_singleton.1 hmem ▸ hd) hdone
  | done hw hdone => exact ⟨fun _ => ⟨_, List.mem_cons_of_mem _ List.mem_cons_self, hdone⟩, fun _ => rfl⟩

/-- What is written is the form of the account, after the edge accepted the current password. -/
theorem of_isWrite (h : Replacement setup current new o es) {w : Exchange} (hmem : w ∈ es) (hwrite : w.isWrite) :
    ∃ accepted, es = [.rpc Rpc.authenticate (credentials Configuration.accountId current) (.ok accepted), w] ∧
      Posting.SentAs setup ⟨Configuration.accountFactory, accountForm new⟩ w := by
  have hcheck : ∀ answer, w ≠ .rpc Rpc.authenticate (credentials Configuration.accountId current) answer := by
    rintro answer rfl
    cases hwrite
  cases h with
  | rejected => exact absurd (List.mem_singleton.1 hmem) (hcheck _)
  | unsent => exact absurd (List.mem_singleton.1 hmem) (hcheck _)
  | failed hw | done hw =>
    rcases List.mem_cons.1 hmem with heq | hmem
    · exact absurd heq (hcheck _)
    · cases List.mem_singleton.1 hmem
      exact ⟨_, rfl, hw⟩

/-- No step but the check of the current password can fail over an invalid value. -/
theorem of_invalidValue (h : Replacement setup current new o es) {v : FieldError} (ho : o = .error (.invalidValue v)) :
    es = [.rpc Rpc.authenticate (credentials Configuration.accountId current) (.error (.invalidValue v))] := by
  cases h with
  | @rejected answer f hanswer =>
    cases ho
    rcases answer with f | x
    · cases f <;> cases hanswer
      rfl
    · cases hanswer
  | unsent => cases ho
  | failed _ _ hf =>
    cases ho
    exact absurd rfl hf
  | done => cases ho

end Replacement

theorem changePassword_empty (current : String) (s : Session σ) :
    changePassword setup current "" s = .error (.invalidValue ⟨"password", "must not be empty"⟩) s := rfl

/-- A change of the password that succeeds logs out, one that fails leaves the session as it was. -/
theorem loggedIn_changePassword (current new : String) (s : Session σ) :
    ((changePassword setup current new).after s).loggedIn =
      if ((changePassword setup current new).outcome s).isOk then false else s.loggedIn := by
  by_cases hnew : new = ""
  · subst hnew
    rw [after, outcome, changePassword_empty]
    rfl
  · have hkeeps : (replacePassword setup current new).KeepsLogin := by
      refine (keepsLogin_authenticate setup _ _).bind fun _ => ?_
      rw [discard_eq_bind]
      exact (keepsLogin_post setup _).bind fun _ => keepsLogin_pure ()
    rw [changePassword_eq setup hnew]
    rcases h : replacePassword setup current new s with ⟨⟨⟩, s'⟩ | ⟨f, s'⟩
    · rw [(after_bind_of_ok h _).1, (after_bind_of_ok h _).2]
      rfl
    · obtain ⟨ho, hs⟩ := outcome_eq_error (bind_of_error h fun _ => logout)
      rw [ho, hs, ← (outcome_eq_error h).2, hkeeps s]
      rfl

end Action

/-! ### Calls of the account -/

inductive AccountCall where
  | login (user password : String)
  | logout
  | changePassword (current new : String)

/-- A call of the account that was made. -/
structure AccountEvent where
  call : AccountCall
  /-- Whether the session was logged in before. -/
  before : Bool
  outcome : Except Failure Unit
  exchanges : List Exchange
  /-- Whether the session was logged in afterwards. -/
  after : Bool

namespace AccountCall

variable {σ : Type} (setup : Setup σ)

def perform : AccountCall → Action σ Unit
  | .login user password => Action.login setup user password
  | .logout => Action.logout
  | .changePassword current new => Action.changePassword setup current new

/-- The session after calls that were made one after the other, whatever came of each. -/
def performAll (calls : List AccountCall) (s : Session σ) : Session σ :=
  calls.foldl (fun s c => (c.perform setup).after s) s

def event (c : AccountCall) (s : Session σ) : AccountEvent where
  call := c
  before := s.loggedIn
  outcome := (c.perform setup).outcome s
  exchanges := ((c.perform setup).after s).log.drop s.log.length
  after := ((c.perform setup).after s).loggedIn

/-- What happens when calls are made one after the other. -/
def events : List AccountCall → Session σ → List AccountEvent
  | [], _ => []
  | c :: calls, s => c.event setup s :: events calls ((c.perform setup).after s)

end AccountCall

namespace AccountEvent

def IsLogin (e : AccountEvent) : Prop := ∃ user password, e.call = .login user password

/-- A logout, or a change of the password that succeeded. -/
def EndsLogin (e : AccountEvent) : Prop :=
  e.call = .logout ∨ (∃ current new, e.call = .changePassword current new) ∧ e.outcome = .ok ()

/-- The most recent login succeeded, and nothing that ends a login came after it. -/
def LoggedIn (events : List AccountEvent) : Prop :=
  ∃ earlier e later, events = earlier ++ e :: later ∧ e.IsLogin ∧ e.outcome = .ok () ∧
    ∀ e' ∈ later, ¬ e'.IsLogin ∧ ¬ e'.EndsLogin

/-- A form that gives the account a password: its alias is the digest of the password, in 64 hexadecimal digits in
lower case. -/
structure GivesPassword (password : String) (form : Form) : Prop where
  form_eq : form = Action.accountForm password
  alias_eq : form.getAll "alias" = [Sha256.hex password.toUTF8.toList]
  length_alias : (Sha256.hex password.toUTF8.toList).length = 64
  isLowerHex : ∀ c ∈ (Sha256.hex password.toUTF8.toList).toList, Sha256.isLowerHex c

/-- What is promised of every call of the account. -/
structure Conforms {σ : Type} (setup : Setup σ) (e : AccountEvent) : Prop where
  /-- A login asks the edge once, and what the edge says decides. -/
  login : ∀ user password, e.call = .login user password → Action.Asked user password e.outcome e.exchanges
  logout : e.call = .logout → e.outcome = .ok () ∧ e.exchanges = []
  /-- A change of the password succeeds exactly if its posting was done. -/
  changed : ∀ current new, e.call = .changePassword current new →
    (e.outcome = .ok () ↔ ∃ w ∈ e.exchanges, w.isDonePosting)
  /-- A change of the password that fails leaves the session logged in or out, as it was. -/
  unchanged : ∀ current new f, e.call = .changePassword current new → e.outcome = .error f → e.after = e.before
  /-- What is written is the form of the account, alone, in a change of the password to one that is not empty, after the
  edge accepted the current one. -/
  posted : ∀ w ∈ e.exchanges, w.isWrite → ∃ current new accepted form, e.call = .changePassword current new ∧ new ≠ "" ∧
    e.exchanges = [.rpc Rpc.authenticate (Action.credentials "admin" current) (.ok accepted), w] ∧
    Posting.SentAs setup ⟨Configuration.accountFactory, form⟩ w ∧ GivesPassword new form
  /-- A new password that is not empty is no invalid value.  So an invalid value could only be what the channel to the
  edge itself reports in place of an answer. -/
  valid : ∀ current new v, e.call = .changePassword current new → new ≠ "" → e.outcome = .error (.invalidValue v) →
    e.exchanges = [.rpc Rpc.authenticate (Action.credentials "admin" current) (.error (.invalidValue v))]

end AccountEvent

namespace AccountCall

variable {σ : Type} (setup : Setup σ)

open AccountEvent

/-! ### One call -/

/-- The exchanges of a call are what it adds to the log. -/
theorem event_exchanges (c : AccountCall) (s : Session σ) {P : Except Failure Unit → List Exchange → Prop}
    (h : (c.perform setup).Adds P) :
    ((c.perform setup).after s).log = s.log ++ (c.event setup s).exchanges ∧
      P (c.event setup s).outcome (c.event setup s).exchanges := by
  obtain ⟨es, hlog, hP⟩ := h s
  have hes : (c.event setup s).exchanges = es := by rw [event, hlog, List.drop_left]
  rw [hes]
  exact ⟨hlog, hP⟩

theorem givesPassword_accountForm (password : String) : GivesPassword password (Action.accountForm password) where
  form_eq := rfl
  alias_eq := rfl
  length_alias := Sha256.length_hex _
  isLowerHex _ h := Sha256.isLowerHex_of_mem_hex h

theorem conforms_login (user password : String) (s : Session σ) :
    ((login user password).event setup s).Conforms setup := by
  obtain ⟨-, hasked⟩ := (login user password).event_exchanges setup s (Action.adds_login setup user password)
  refine ⟨?_, nofun, nofun, nofun, fun w hw hwrite => ?_, nofun⟩
  · rintro _ _ ⟨⟩
    exact hasked
  · obtain ⟨answer, hes, -⟩ := hasked
    cases List.mem_singleton.1 (hes ▸ hw)
    cases hwrite

theorem conforms_logout (s : Session σ) : (logout.event setup s).Conforms setup := by
  have hes : (logout.event setup s).exchanges = [] := List.drop_length
  exact ⟨nofun, fun _ => ⟨rfl, hes⟩, nofun, nofun, fun w hw _ => absurd (hes ▸ hw) List.not_mem_nil, nofun⟩

theorem conforms_changePassword (current new : String) (s : Session σ) :
    ((changePassword current new).event setup s).Conforms setup := by
  have hunchanged : ∀ f, ((changePassword current new).event setup s).outcome = .error f →
      ((changePassword current new).event setup s).after = s.loggedIn := by
    intro f ho
    have hflag := Action.loggedIn_changePassword setup current new s
    rwa [show (Action.changePassword setup current new).outcome s = .error f from ho] at hflag
  by_cases hnew : new = ""
  · -- nothing is exchanged over a password that is empty
    subst hnew
    have hes : ((changePassword current "").event setup s).exchanges = [] := List.drop_length
    have hnone : ∀ w, w ∉ ((changePassword current "").event setup s).exchanges := fun w hw =>
      absurd (hes ▸ hw) List.not_mem_nil
    refine ⟨nofun, nofun, ?_, ?_, fun w hw _ => absurd hw (hnone w), ?_⟩
    · rintro _ _ ⟨⟩
      exact ⟨nofun, fun ⟨w, hw, _⟩ => absurd hw (hnone w)⟩
    · rintro _ _ f ⟨⟩ ho
      exact hunchanged f ho
    · rintro _ _ v ⟨⟩ hne
      exact absurd rfl hne
  · obtain ⟨-, hcourse⟩ :=
      (changePassword current new).event_exchanges setup s (Action.adds_changePassword setup hnew)
    refine ⟨nofun, nofun, ?_, ?_, fun w hw hwrite => ?_, ?_⟩
    · rintro _ _ ⟨⟩
      exact hcourse.eq_ok_iff
    · rintro _ _ f ⟨⟩ ho
      exact hunchanged f ho
    · obtain ⟨accepted, hes, hsent⟩ := hcourse.of_isWrite hw hwrite
      exact ⟨current, new, accepted, Action.accountForm new, rfl, hnew, hes, hsent, givesPassword_accountForm new⟩
    · rintro _ _ v ⟨⟩ - ho
      exact hcourse.of_invalidValue ho

/-- Every call of the account keeps what is promised of it. -/
theorem conforms_event (c : AccountCall) (s : Session σ) : (c.event setup s).Conforms setup := by
  cases c with
  | login user password => exact conforms_login setup user password s
  | logout => exact conforms_logout setup s
  | changePassword current new => exact conforms_changePassword setup current new s

theorem adds_perform (c : AccountCall) : (c.perform setup).Adds fun _ _ => True := by
  cases c with
  | login user password => exact (Action.adds_login setup user password).mono fun _ _ _ => trivial
  | logout => exact (Action.still_setLoggedIn false).mono fun _ _ _ => trivial
  | changePassword current new =>
    by_cases hnew : new = ""
    · subst hnew
      exact fun s => ⟨[], (List.append_nil _).symm, trivial⟩
    · exact (Action.adds_changePassword setup hnew).mono fun _ _ _ => trivial

/-- Only a login logs in, and only a logout or a change of the password that succeeded ends it. -/
theorem event_after (c : AccountCall) (s : Session σ) :
    (c.event setup s).after = true ↔ (c.event setup s).IsLogin ∧ (c.event setup s).outcome = .ok () ∨
      s.loggedIn ∧ ¬ (c.event setup s).IsLogin ∧ ¬ (c.event setup s).EndsLogin := by
  cases c with
  | login user password =>
    have hlogin : ((login user password).event setup s).IsLogin := ⟨user, password, rfl⟩
    have hflag : ((login user password).event setup s).after = ((login user password).event setup s).outcome.isOk :=
      Action.loggedIn_login setup user password s
    rw [hflag]
    rcases ((login user password).event setup s).outcome with f | ⟨⟨⟩⟩ <;> simp [hlogin, Except.isOk, Except.toBool]
  | logout =>
    have hends : (logout.event setup s).EndsLogin := .inl rfl
    have hlogin : ¬ (logout.event setup s).IsLogin := by
      rintro ⟨_, _, ⟨⟩⟩
    have hflag : (logout.event setup s).after = false := rfl
    simp [hends, hlogin, hflag]
  | changePassword current new =>
    have hlogin : ¬ ((changePassword current new).event setup s).IsLogin := by
      rintro ⟨_, _, ⟨⟩⟩
    have hends : ((changePassword current new).event setup s).EndsLogin ↔
        ((changePassword current new).event setup s).outcome = .ok () := by
      refine ⟨?_, fun h => .inr ⟨⟨current, new, rfl⟩, h⟩⟩
      rintro (⟨⟨⟩⟩ | h)
      exact h.2
    have hflag : ((changePassword current new).event setup s).after =
        if ((changePassword current new).event setup s).outcome.isOk then false else s.loggedIn :=
      Action.loggedIn_changePassword setup current new s
    rw [hflag, hends]
    rcases ((changePassword current new).event setup s).outcome with f | ⟨⟨⟩⟩ <;>
      simp [hlogin, Except.isOk, Except.toBool]

/-! ### Runs -/

/-- What holds of a run that starts with a call: the call is the login that counts, or what follows decides. -/
theorem loggedIn_cons (e : AccountEvent) (events : List AccountEvent) :
    LoggedIn (e :: events) ↔ LoggedIn events ∨
      (e.IsLogin ∧ e.outcome = .ok ()) ∧ ∀ e' ∈ events, ¬ e'.IsLogin ∧ ¬ e'.EndsLogin := by
  constructor
  · rintro ⟨_ | ⟨_, earlier⟩, x, later, heq, hlogin, ho, hlater⟩
    · cases heq
      exact .inr ⟨⟨hlogin, ho⟩, hlater⟩
    · cases heq
      exact .inl ⟨earlier, x, later, rfl, hlogin, ho, hlater⟩
  · rintro (⟨earlier, x, later, rfl, hlogin, ho, hlater⟩ | ⟨⟨hlogin, ho⟩, hlater⟩)
    · exact ⟨e :: earlier, x, later, rfl, hlogin, ho, hlater⟩
    · exact ⟨[], e, events, rfl, hlogin, ho, hlater⟩

/-- Over any calls of the account, a session is logged in exactly if the most recent login succeeded and neither a
logout nor a change of the password that succeeded came after it; where there was none of these, it is as at the
start.  And every call keeps what is promised of it. -/
theorem performAll_conforms (calls : List AccountCall) (s : Session σ) :
    (performAll setup calls s).log = s.log ++ (events setup calls s).flatMap AccountEvent.exchanges ∧
    ((performAll setup calls s).loggedIn = true ↔ LoggedIn (events setup calls s) ∨
      s.loggedIn = true ∧ ∀ e ∈ events setup calls s, ¬ e.IsLogin ∧ ¬ e.EndsLogin) ∧
    ∀ e ∈ events setup calls s, e.Conforms setup := by
  induction calls generalizing s with
  | nil =>
    refine ⟨(List.append_nil _).symm, ⟨fun h => .inr ⟨h, nofun⟩, ?_⟩, nofun⟩
    rintro (⟨earlier, x, later, heq, -⟩ | ⟨h, -⟩)
    · cases earlier <;> cases heq
    · exact h
  | cons c calls ih =>
    obtain ⟨hlog, hflag, hconforms⟩ := ih ((c.perform setup).after s)
    have hc : ((c.perform setup).after s).loggedIn = (c.event setup s).after := rfl
    refine ⟨?_, ?_, ?_⟩
    · rw [performAll, List.foldl_cons, ← performAll, hlog, (c.event_exchanges setup s (c.adds_perform setup)).1, events,
        List.flatMap_cons, List.append_assoc]
    · rw [performAll, List.foldl_cons, ← performAll, hflag, hc, event_after, events, loggedIn_cons,
        List.forall_mem_cons]
      simp only [or_and_right, or_assoc, and_assoc]
    · rw [events, List.forall_mem_cons]
      exact ⟨c.conforms_event setup s, hconforms⟩

end AccountCall

/-- A change that fails over the current password leaves the session logged in, one that succeeds does not. -/
example :
    (AccountCall.performAll (Simulation.setup .bundled)
      [.login "admin" "admin", .changePassword "guess" "s3cret"] { remote := {} }).loggedIn = true ∧
    (AccountCall.performAll (Simulation.setup .bundled)
      [.login "admin" "admin", .changePassword "admin" "s3cret"] { remote := {} }).loggedIn = false := by
  decide +kernel

end EnergyGateway
