import FloatingAddress.Proofs.Addresses
import FloatingAddress.Proofs.Course
import FloatingAddress.Proofs.Forms

/-!
# The requests of a client

A request carries the form of the address that it routes to, or nothing. Whether one can be
made depends on the address only where its text cannot be encoded, which happens to no
address of version 4.

* `Client.request_course`: what a request carries, and that no failure keeps it from being
  made;
* `Client.request_read`, `Client.request_written`: how a read and a write are sent;
* `Client.request_of_form`: a write can be made where a read can;
* `Client.exists_formFor_some_iff`: which addresses can be encoded, among them those of
  version 4 (`Client.exists_formFor_v4`).
-/

namespace FloatingAddress

/-! ## Requests -/

namespace Client

variable {c : Client} {towards : Option Address}

/-- No request can be made, and not by a failure; or one can, with the form of the address
to route to. -/
theorem request_course
    (c : Client)
    (towards : Option Address) :
    (∃ fault, c.request towards = .error fault ∧ ¬fault.IsFailure) ∨
    (∃ r, c.request towards = .ok r ∧
      r.write = towards.isSome ∧
      formFor towards = .ok r.body) := by
  unfold request
  cases basicAuthorization c.user c.password with
  | error run =>
      exact .inl ⟨_, rfl, id⟩
  | ok authorization =>
      cases Url.requested c.endpoint with
      | error problem =>
          exact .inl ⟨_, rfl, id⟩
      | ok url =>
          cases formFor towards with
          | error run =>
              exact .inl ⟨_, rfl, id⟩
          | ok body =>
              simp only [Except.mapError, bind, Except.bind]
              cases url.checkHost with
              | error problem =>
                  exact .inl ⟨_, rfl, id⟩
              | ok _ =>
                  exact .inr ⟨_, rfl, rfl, rfl⟩

theorem request_eq_ok
    {r : Request}
    (h : c.request towards = .ok r) :
    r.write = towards.isSome ∧ formFor towards = .ok r.body := by
  rcases c.request_course towards with ⟨fault, herror, -⟩ | ⟨r', hr, hparts⟩
  · rw [h] at herror
    cases herror
  · rw [h] at hr
    cases hr
    exact hparts

/-- Why no request can be made is never a failure. -/
theorem not_isFailure_of_request
    {fault : Fault}
    (h : c.request towards = .error fault) :
    ¬fault.IsFailure := by
  rcases c.request_course towards with ⟨fault', herror, hother⟩ | ⟨r, hr, -⟩
  · rw [h] at herror
    cases herror
    exact hother
  · rw [h] at hr
    cases hr

/-- A write can be made where a read can, if its address can be encoded; the two are sent to
the same URL. -/
theorem request_of_form
    {body : Text}
    (h : formFor towards = .ok body) :
    c.request towards =
      (c.request none).map fun r => { r with write := towards.isSome, body } := by
  have hread : formFor none = .ok [] := rfl
  unfold request
  rw [h, hread]
  cases basicAuthorization c.user c.password with
  | error run =>
      rfl
  | ok authorization =>
      cases Url.requested c.endpoint with
      | error problem =>
          rfl
      | ok url =>
          simp only [Except.mapError, bind, Except.bind]
          cases url.checkHost <;> rfl

/-- A read is sent without a body. -/
theorem request_read
    {r : Request}
    (h : c.request none = .ok r) :
    methodName r.write = ("GET" : Text) ∧ r.body = [] := by
  obtain ⟨hwrite, hform⟩ := request_eq_ok h
  rw [hwrite]
  exact ⟨rfl, (Except.ok.inj hform).symm⟩

/-- A write carries a form that names the address to route to. -/
theorem request_written
    {own : Address}
    {r : Request}
    (h : c.request (some own) = .ok r) :
    methodName r.write = ("POST" : Text) ∧
    Form.decode? r.body = some [(("active_server_ip" : Text), own.text)] := by
  obtain ⟨hwrite, hform⟩ := request_eq_ok h
  rw [hwrite]
  exact ⟨rfl, Form.decode?_encodeField hform⟩

/-- A form can be made of an address whose written form holds no surrogate, and of no other. -/
theorem exists_formFor_some_iff
    (a : Address) :
    (∃ body, formFor (some a) = .ok body) ↔ ∀ c ∈ a.text, c.isSurrogate = false := by
  have hname : ∀ c ∈ fieldName, c.isSurrogate = false := by
    decide
  simp only [formFor, Form.encodeField_eq_ok_iff, Form.encodeText_eq_ok_iff]
  constructor
  · rintro ⟨body, n, v, -, ⟨ha, -⟩, -⟩
    exact ha
  · intro ha
    exact ⟨_, _, _, ⟨hname, rfl⟩, ⟨ha, rfl⟩, rfl⟩

theorem exists_formFor_v4
    (a : V4) :
    ∃ body, formFor (some (.v4 a)) = .ok body :=
  (exists_formFor_some_iff (.v4 a)).mpr a.isSurrogate_of_mem_text

end Client
end FloatingAddress
