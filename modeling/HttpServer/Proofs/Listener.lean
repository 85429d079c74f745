import HttpServer.Listener
import HttpServer.Proofs.History

/-!
The life of a listener, told by the calls that were made on it. What the last stop has not undone
says whether it is bound and whether it runs; its address is that of the last bind, whatever came
after it.
-/

namespace HttpServer

def ServerError.isRefusal : ServerError → Bool
  | .alreadyRunning | .tls _ => true
  | _ => false

namespace Listener

open History

variable {α : Type}

def addressFor? (host : String) (port : Nat)
    (opened : SocketAddress → Except IoError SocketAddress) : Option SocketAddress :=
  match SocketAddress.resolve host port with
  | .ok wanted => (opened wanted).toOption
  | .error _ => none

/-! ### Calls -/

inductive Call (α : Type)
  | bind (host : String) (port : Nat) (opened : SocketAddress → Except IoError SocketAddress)
  | listen (failure : Option IoError)
  | accept (arrivals : List (Except IoError α))
  | stop

namespace Call

def apply (listener : Listener) : Call α → Listener
  | .bind host port opened => (listener.bind host port opened).1
  | .listen failure => (listener.listen failure).1
  | .accept _ => listener
  | .stop => listener.stop

def bound? : Call α → Option SocketAddress
  | .bind host port opened => addressFor? host port opened
  | _ => none

def Listens (listener : Listener) : Call α → Prop
  | .listen failure => (listener.listen failure).2 = .ok ()
  | _ => False

end Call

/-! ### What a call does -/

theorem resolve_error {host : String} {port : Nat} {error : ServerError}
    (unknown : SocketAddress.resolve host port = .error error) : error = .invalidAddress host := by
  unfold SocketAddress.resolve at unknown
  split at unknown
  · cases unknown
  · split at unknown
    · cases unknown
    · split at unknown
      · cases unknown
      · cases unknown
        rfl

theorem bind_cases (listener : Listener) (host : String) (port : Nat)
    (opened : SocketAddress → Except IoError SocketAddress) :
    (∃ error, error.isRefusal = false ∧ addressFor? host port opened = none ∧
      listener.bind host port opened = (listener, .error error)) ∨
    ∃ address, addressFor? host port opened = some address ∧
      listener.bind host port opened =
        ({ listener with socket := some address, address := some address }, .ok address) := by
  simp only [Listener.bind, addressFor?]
  cases resolved : SocketAddress.resolve host port with
  | error error =>
      obtain rfl := resolve_error resolved
      exact .inl ⟨.invalidAddress host, rfl, rfl, rfl⟩
  | ok wanted =>
      dsimp only
      cases opened wanted with
      | error source => exact .inl ⟨.bind wanted.text source, rfl, rfl, rfl⟩
      | ok address => exact .inr ⟨address, rfl, rfl⟩

theorem listen_cases (listener : Listener) (failure : Option IoError) :
    (listener.socket = none ∧ listener.listen failure = (listener, .error .notBound)) ∨
    (∃ source, listener.socket.isSome = true ∧ failure = some source ∧
      listener.listen failure = (listener, .error (.listen source))) ∨
    listener.socket.isSome = true ∧ failure = none ∧
      listener.listen failure = ({ listener with running := true }, .ok ()) := by
  unfold Listener.listen
  cases listener.socket with
  | none => exact .inl ⟨rfl, rfl⟩
  | some socket =>
      cases failure with
      | none => exact .inr (.inr ⟨rfl, rfl, rfl⟩)
      | some source => exact .inr (.inl ⟨source, rfl, rfl, rfl⟩)

inductive Does (listener : Listener) : Call α → Listener → Prop
  | binds {host : String} {port : Nat} {opened : SocketAddress → Except IoError SocketAddress}
      {address : SocketAddress} (bound : addressFor? host port opened = some address) :
      Does listener (.bind host port opened)
        { listener with socket := some address, address := some address }
  | listens {failure : Option IoError} (held : listener.socket.isSome = true)
      (answered : (listener.listen failure).2 = .ok ()) :
      Does listener (.listen failure) { listener with running := true }
  | stops : Does listener .stop listener.stop
  | nothing {call : Call α} (unbound : call.bound? = none) (refused : ¬call.Listens listener)
      (goesOn : call ≠ .stop) : Does listener call listener

theorem does_apply (listener : Listener) (call : Call α) :
    Does listener call (call.apply listener) := by
  cases call with
  | bind host port opened =>
      rcases bind_cases listener host port opened with
        ⟨error, -, unbound, failed⟩ | ⟨address, bound, done⟩
      · rw [Call.apply, failed]
        exact .nothing unbound id nofun
      · rw [Call.apply, done]
        exact .binds bound
  | listen failure =>
      rcases listen_cases listener failure with
        ⟨-, failed⟩ | ⟨source, -, -, failed⟩ | ⟨held, -, done⟩
      · rw [Call.apply, failed]
        exact .nothing rfl (by simp [Call.Listens, failed]) nofun
      · rw [Call.apply, failed]
        exact .nothing rfl (by simp [Call.Listens, failed]) nofun
      · rw [Call.apply, done]
        exact .listens held (by rw [done])
  | accept arrivals => exact .nothing rfl id nofun
  | stop => exact .stops

/-! ### Histories of calls -/

def after (history : List (Call α)) : Listener :=
  history.foldl Call.apply {}

theorem does_after (history : List (Call α)) (call : Call α) :
    Does (after history) call (after (history ++ [call])) := by
  have same : after (history ++ [call]) = call.apply (after history) :=
    List.foldl_concat Call.apply {} call history
  rw [same]
  exact does_apply (after history) call

variable (history : List (Call α))

theorem socket_after :
    (after history).socket.isSome = true ↔
      Stands (fun _ call => call.bound?.isSome = true) (· = .stop) history := by
  refine iff_stands (fun calls => (after calls).socket.isSome = true) ?_ ?_ history
  · exact Bool.false_ne_true
  · intro history call
    have step := does_after history call
    generalize after (history ++ [call]) = next at step ⊢
    cases step with
    | binds bound => simp [Call.bound?, bound]
    | listens held answered => simp [Call.bound?]
    | stops => simp [Call.bound?, stop]
    | nothing unbound refused goesOn => simp [unbound, goesOn]

theorem running_after :
    (after history).running = true ↔
      Stands (fun before call => call.Listens (after before)) (· = .stop) history := by
  refine iff_stands (fun calls => (after calls).running = true) ?_ ?_ history
  · exact Bool.false_ne_true
  · intro history call
    have step := does_after history call
    generalize after (history ++ [call]) = next at step ⊢
    cases step with
    | binds bound => simp [Call.Listens]
    | listens held answered => simp [Call.Listens, answered]
    | stops => simp [Call.Listens, stop]
    | nothing unbound refused goesOn => simp [refused, goesOn]

theorem address_after (address : SocketAddress) :
    (after history).address = some address ↔
      Stands (fun _ call => call.bound? = some address) (·.bound?.isSome = true) history := by
  refine iff_stands (fun calls => (after calls).address = some address) ?_ ?_ history
  · intro known
    cases known
  · intro history call
    have step := does_after history call
    generalize after (history ++ [call]) = next at step ⊢
    cases step with
    | binds bound => simp [Call.bound?, bound]
    | listens held answered => simp [Call.bound?]
    | stops => simp [Call.bound?, stop]
    | nothing unbound refused goesOn => simp [unbound]

theorem held_after (running : (after history).running = true) :
    (after history).socket.isSome = true := by
  induction history using List.reverseRecOn with
  | nil => cases running
  | append_singleton history call ih =>
      have step := does_after history call
      generalize after (history ++ [call]) = next at step running ⊢
      cases step with
      | binds bound => rfl
      | listens held answered => exact held
      | stops => cases running
      | nothing unbound refused goesOn => exact ih running

/-- What the listener is, and how it answers, by the calls that were made on it. -/
structure Reflects (history : List (Call α)) (listener : Listener) : Prop where
  bind_failed : ∀ host port opened error,
    (listener.bind host port opened).2 = .error error →
      (listener.bind host port opened).1 = listener
  listen_failed : ∀ failure error,
    (listener.listen failure).2 = .error error → (listener.listen failure).1 = listener
  bound : ∀ host port opened address,
    (listener.bind host port opened).2 = .ok address ↔
      addressFor? host port opened = some address
  not_bound : ∀ failure, (listener.listen failure).2 = .error .notBound ↔
    ¬Stands (fun _ call => call.bound?.isSome = true) (· = .stop) history
  listens : ∀ failure, (listener.listen failure).2 = .ok () ↔
    failure = none ∧ Stands (fun _ call => call.bound?.isSome = true) (· = .stop) history
  running : listener.running = true ↔
    Stands (fun before call => call.Listens (after before)) (· = .stop) history
  held : listener.running = true → listener.socket.isSome = true
  address : ∀ address, listener.address = some address ↔
    Stands (fun _ call => call.bound? = some address) (·.bound?.isSome = true) history
  idle : listener.running = false → ∀ arrivals : List (Except IoError α),
    listener.accept arrivals = ([], [])
  again : ∀ host port opened address next,
    listener.stop.bind host port opened = (next, .ok address) →
      ∀ failure last, next.listen failure = (last, .ok ()) →
        last.running = true ∧ last.socket = some address ∧ last.address = some address

theorem after_reflects (history : List (Call α)) : Reflects history (after history) where
  bind_failed := by
    intro host port opened error failed
    rcases bind_cases (after history) host port opened with
      ⟨_, -, -, same⟩ | ⟨address, -, done⟩
    · rw [same]
    · rw [done] at failed
      cases failed
  listen_failed := by
    intro failure error failed
    rcases listen_cases (after history) failure with
      ⟨-, same⟩ | ⟨_, -, -, same⟩ | ⟨-, -, done⟩
    · rw [same]
    · rw [same]
    · rw [done] at failed
      cases failed
  bound := by
    intro host port opened address
    rcases bind_cases (after history) host port opened with
      ⟨_, -, unbound, failed⟩ | ⟨_, bound, done⟩
    · simp [unbound, failed]
    · simp [bound, done]
  not_bound := by
    intro failure
    rw [← socket_after]
    rcases listen_cases (after history) failure with
      ⟨missing, failed⟩ | ⟨_, held, -, failed⟩ | ⟨held, -, done⟩
    · simp [missing, failed]
    · simp [held, failed]
    · simp [held, done]
  listens := by
    intro failure
    rw [← socket_after]
    rcases listen_cases (after history) failure with
      ⟨missing, failed⟩ | ⟨_, -, refused, failed⟩ | ⟨held, allowed, done⟩
    · simp [missing, failed]
    · rw [failed]
      simp [refused]
    · rw [done]
      simp [held, allowed]
  running := running_after history
  held := held_after history
  address := address_after history
  idle := by
    intro stopped arrivals
    rw [accept, stopped, Bool.and_false]
    rfl
  again := by
    intro host port opened address next bound failure last listens
    rcases bind_cases (after history).stop host port opened with
      ⟨_, -, -, failed⟩ | ⟨_, -, done⟩
    · cases failed.symm.trans bound
    · cases done.symm.trans bound
      rcases listen_cases _ failure with ⟨-, failed⟩ | ⟨_, -, -, failed⟩ | ⟨-, -, done⟩
      · cases failed.symm.trans listens
      · cases failed.symm.trans listens
      · cases done.symm.trans listens
        exact ⟨rfl, rfl, rfl⟩

example (refusal : IoError) (address : SocketAddress) :
    let history : List (Call Unit) :=
      [.bind "localhost" 0 fun _ => .ok address, .listen none,
        .bind "localhost" 80 fun _ => .error refusal, .stop]
    after history = { address := some address } := by
  rfl

end Listener

end HttpServer
