import CubeClient.Envelope.Response

/-!
# What a response is taken for

A response is classified by what stands where in its document: a fault in the first body, an
exception in the payload, or neither. `Classified` says which answer goes with which document, in
terms of the children that are there, and `parseResponse` answers accordingly for all bytes. No
fault and no exception is ever answered as a payload.
-/

namespace CubeClient.Xml.Element

/-! ## Children by name -/

/-- An element has this local name and, when one is asked for, this namespace. -/
def Matches (e : Element) (namespaceUri : Option String) (name : String) : Prop :=
  e.name = name ∧ ∀ uri, namespaceUri = some uri → e.namespaceUri = some uri

/-- An element is the first of a name among the children of another. -/
def IsFirst (parent : Element) (namespaceUri : Option String) (name : String) (e : Element) :
    Prop :=
  ∃ before after, parent.elements = before ++ e :: after ∧ e.Matches namespaceUri name ∧
    ∀ other ∈ before, ¬ other.Matches namespaceUri name

/-- An element has a child of this name, at any position. -/
def Has (parent : Element) (namespaceUri : Option String) (name : String) : Prop :=
  ∃ e ∈ parent.elements, e.Matches namespaceUri name

theorem isNamed_iff {e : Element} {namespaceUri : Option String} {name : String} :
    e.isNamed namespaceUri name = true ↔ e.Matches namespaceUri name := by
  unfold isNamed Matches
  cases namespaceUri with
  | none => simp
  | some uri => simp

/-- The lookup of a child finds the first one of that name. -/
theorem child?_eq_some_iff {parent e : Element} {namespaceUri : Option String} {name : String} :
    parent.child? namespaceUri name = some e ↔ parent.IsFirst namespaceUri name e := by
  rw [child?, List.find?_eq_some_iff_append, isNamed_iff]
  constructor
  · rintro ⟨hmatches, before, after, heq, hbefore⟩
    refine ⟨before, after, heq, hmatches, fun other hother h => ?_⟩
    have := hbefore other hother
    rw [isNamed_iff.mpr h] at this
    cases this
  · rintro ⟨before, after, heq, hmatches, hbefore⟩
    refine ⟨hmatches, before, after, heq, fun other hother => ?_⟩
    rw [Bool.not_eq_true', ← Bool.not_eq_true, isNamed_iff]
    exact hbefore other hother

theorem child?_eq_none_iff {parent : Element} {namespaceUri : Option String} {name : String} :
    parent.child? namespaceUri name = none ↔ ¬ parent.Has namespaceUri name := by
  rw [child?, List.find?_eq_none, Has]
  simp only [isNamed_iff, not_exists, not_and]

theorem IsFirst.has {parent e : Element} {namespaceUri : Option String} {name : String}
    (h : parent.IsFirst namespaceUri name e) : parent.Has namespaceUri name := by
  obtain ⟨before, after, heq, hmatches, -⟩ := h
  exact ⟨e, by rw [heq]; simp, hmatches⟩

theorem IsFirst.unique {parent e other : Element} {namespaceUri : Option String} {name : String}
    (h : parent.IsFirst namespaceUri name e) (hother : parent.IsFirst namespaceUri name other) :
    other = e := by
  rw [← child?_eq_some_iff] at h hother
  exact Option.some.inj (hother.symm.trans h)

end CubeClient.Xml.Element

namespace CubeClient.Envelope

open CubeClient.Xml

/-! ## Where faults and exceptions stand -/

/-- The bytes are a SOAP envelope, and this is the first body in it. -/
def HasBody (bytes : Text.Bytes) (body : Element) : Prop :=
  ∃ envelope, Element.parse bytes = .ok envelope ∧
    envelope.Matches (some soapNamespace) "Envelope" ∧
    envelope.IsFirst (some soapNamespace) "Body" body

/-- The root of what a body carries: the first `root` in the first `return` of the first element. -/
def IsPayload (body root : Element) : Prop :=
  ∃ response result, body.elements.head? = some response ∧
    response.IsFirst none "return" result ∧ result.IsFirst none "root" root

/-- There is a fault among the children of the body. -/
def CarriesFault (bytes : Text.Bytes) : Prop :=
  ∃ body, HasBody bytes body ∧ body.Has (some soapNamespace) "Fault"

/-- There is no fault, but there is an exception among the children of the payload's root. -/
def CarriesException (bytes : Text.Bytes) : Prop :=
  ¬ CarriesFault bytes ∧
    ∃ body root, HasBody bytes body ∧ IsPayload body root ∧ root.Has none "Exception"

/-- The answer to a response is the one that goes with its document. -/
structure Classified (bytes : Text.Bytes) (answer : Except ClientError Element) : Prop where
  unreadable : ∀ {fault : DocumentFault}, Element.parse bytes = .error fault →
    answer = .error (.parse (.document fault))
  fault : ∀ {body fault : Element}, HasBody bytes body →
    body.IsFirst (some soapNamespace) "Fault" fault → answer = .error (.fault (readFault fault))
  exception : ∀ {body root : Element}, HasBody bytes body → ¬ CarriesFault bytes →
    IsPayload body root → root.Has none "Exception" →
    ∃ code description, readException? root = some (.serverException code description) ∧
      answer = .error (.serverException code description)
  payload : ∀ {body root : Element}, HasBody bytes body → ¬ CarriesFault bytes →
    IsPayload body root → ¬ root.Has none "Exception" → answer = .ok root
  /-- There is no path to a payload. -/
  astray : ∀ {envelope : Element}, Element.parse bytes = .ok envelope → ¬ CarriesFault bytes →
    (∀ body root, HasBody bytes body → ¬ IsPayload body root) →
    ∃ fault, answer = .error (.protocol fault)
  answered : ∀ {root : Element}, answer = .ok root →
    ¬ CarriesFault bytes ∧ ¬ CarriesException bytes ∧
      ∃ body, HasBody bytes body ∧ IsPayload body root
  refused : ∀ {error : ClientError}, answer = .error error →
    (error.isFault = true ↔ CarriesFault bytes ∨ CarriesException bytes)

/-! ## Classifying -/

/-- A document has one body. -/
theorem HasBody.unique {bytes : Text.Bytes} {body other : Element} (h : HasBody bytes body)
    (hother : HasBody bytes other) : other = body := by
  obtain ⟨envelope, hread, -, hbody⟩ := h
  obtain ⟨envelope', hread', -, hbody'⟩ := hother
  obtain rfl := Except.ok.inj (hread.symm.trans hread')
  exact hbody.unique hbody'

/-- The payload is found exactly if the path to it is there. -/
theorem payload_eq_ok_iff {body root : Element} :
    payload body = .ok root ↔ IsPayload body root := by
  unfold payload IsPayload
  cases body.elements.head? with
  | none => simp [bind, Except.bind]
  | some response =>
    simp only [← Element.child?_eq_some_iff]
    cases hresult : response.child? none "return" with
    | none => simp [bind, Except.bind, hresult]
    | some result =>
      cases hroot : result.child? none "root" <;> simp [bind, Except.bind, hresult, hroot]

/-- A body has one payload. -/
theorem IsPayload.unique {body root other : Element} (h : IsPayload body root)
    (hother : IsPayload body other) : other = root := by
  rw [← payload_eq_ok_iff] at h hother
  exact Except.ok.inj (hother.symm.trans h)

/-- Whether a document carries a fault is said by its body. -/
theorem carriesFault_iff {bytes : Text.Bytes} {body : Element} (h : HasBody bytes body) :
    CarriesFault bytes ↔ body.Has (some soapNamespace) "Fault" := by
  constructor
  · rintro ⟨other, hother, hfault⟩
    exact h.unique hother ▸ hfault
  · exact fun hfault => ⟨body, h, hfault⟩

/-- Without a fault, whether it carries an exception is said by its payload. -/
theorem carriesException_iff {bytes : Text.Bytes} {body : Element} (h : HasBody bytes body)
    (hnone : ¬ body.Has (some soapNamespace) "Fault") :
    CarriesException bytes ↔ ∃ root, IsPayload body root ∧ root.Has none "Exception" := by
  constructor
  · rintro ⟨-, other, root, hother, hroot, hhas⟩
    obtain rfl := h.unique hother
    exact ⟨root, hroot, hhas⟩
  · rintro ⟨root, hroot, hhas⟩
    exact ⟨fun hfault => hnone ((carriesFault_iff h).mp hfault), body, root, h, hroot, hhas⟩

theorem readException?_eq_none_iff {root : Element} :
    readException? root = none ↔ ¬ root.Has none "Exception" := by
  rw [readException?, Option.map_eq_none_iff, Element.child?_eq_none_iff]

theorem readException?_of_has {root : Element} (h : root.Has none "Exception") :
    ∃ code description, readException? root = some (.serverException code description) := by
  cases hread : root.child? none "Exception" with
  | none => exact absurd h (Element.child?_eq_none_iff.mp hread)
  | some e =>
    rw [readException?, hread]
    exact ⟨_, _, rfl⟩

/-- The ways in which a response is read. -/
inductive Verdict (bytes : Text.Bytes) : Except ClientError Element → Prop
  | unreadable {fault : DocumentFault} (h : Element.parse bytes = .error fault) :
      Verdict bytes (.error (.parse (.document fault)))
  | bodiless {fault : ProtocolFault} {envelope : Element}
      (hread : Element.parse bytes = .ok envelope) (h : ∀ body, ¬ HasBody bytes body) :
      Verdict bytes (.error (.protocol fault))
  | fault {body fault : Element} (hbody : HasBody bytes body)
      (h : body.IsFirst (some soapNamespace) "Fault" fault) :
      Verdict bytes (.error (.fault (readFault fault)))
  | astray {fault : ProtocolFault} {body : Element} (hbody : HasBody bytes body)
      (hnone : ¬ body.Has (some soapNamespace) "Fault") (h : ∀ root, ¬ IsPayload body root) :
      Verdict bytes (.error (.protocol fault))
  | exception {body root : Element} {code description : String} (hbody : HasBody bytes body)
      (hnone : ¬ body.Has (some soapNamespace) "Fault") (hroot : IsPayload body root)
      (h : root.Has none "Exception")
      (hread : readException? root = some (.serverException code description)) :
      Verdict bytes (.error (.serverException code description))
  | payload {body root : Element} (hbody : HasBody bytes body)
      (hnone : ¬ body.Has (some soapNamespace) "Fault") (hroot : IsPayload body root)
      (h : ¬ root.Has none "Exception") : Verdict bytes (.ok root)

/-- The answer to an envelope with a body is said by the children of the body. -/
theorem verdict_of_body {bytes : Text.Bytes} {envelope body : Element}
    (hread : Element.parse bytes = .ok envelope)
    (henvelope : envelope.Matches (some soapNamespace) "Envelope")
    (hfirst : envelope.IsFirst (some soapNamespace) "Body" body) :
    Verdict bytes (readResponse envelope) := by
  have hbody : HasBody bytes body := ⟨envelope, hread, henvelope, hfirst⟩
  rw [readResponse, Element.isNamed_iff.mpr henvelope, Element.child?_eq_some_iff.mpr hfirst]
  simp only [Bool.not_true, Bool.false_eq_true, if_false]
  cases hfault : body.child? (some soapNamespace) "Fault" with
  | some fault => exact .fault hbody (Element.child?_eq_some_iff.mp hfault)
  | none =>
    have hnone := Element.child?_eq_none_iff.mp hfault
    cases hpayload : payload body with
    | error fault =>
      refine .astray hbody hnone fun root hroot => ?_
      rw [payload_eq_ok_iff.mpr hroot] at hpayload
      cases hpayload
    | ok root =>
      have hroot := payload_eq_ok_iff.mp hpayload
      by_cases hexception : root.Has none "Exception"
      · obtain ⟨code, description, hread⟩ := readException?_of_has hexception
        simp only [hread]
        exact .exception hbody hnone hroot hexception hread
      · simp only [readException?_eq_none_iff.mpr hexception]
        exact .payload hbody hnone hroot hexception

/-- Every response is read in one of these ways. -/
theorem verdict (bytes : Text.Bytes) : Verdict bytes (parseResponse bytes) := by
  unfold parseResponse
  cases hread : Element.parse bytes with
  | error fault => exact .unreadable hread
  | ok envelope =>
    dsimp only
    by_cases henvelope : envelope.Matches (some soapNamespace) "Envelope"
    · cases hbody : envelope.child? (some soapNamespace) "Body" with
      | some body => exact verdict_of_body hread henvelope (Element.child?_eq_some_iff.mp hbody)
      | none =>
        rw [readResponse, Element.isNamed_iff.mpr henvelope, hbody]
        refine .bodiless hread ?_
        rintro body ⟨other, hother, -, hfirst⟩
        obtain rfl := Except.ok.inj (hread.symm.trans hother)
        exact Element.child?_eq_none_iff.mp hbody hfirst.has
    · have hnot : envelope.isNamed (some soapNamespace) "Envelope" = false := by
        rw [← Bool.not_eq_true, Element.isNamed_iff]
        exact henvelope
      rw [readResponse, hnot]
      refine .bodiless hread ?_
      rintro body ⟨other, hother, hmatches, -⟩
      obtain rfl := Except.ok.inj (hread.symm.trans hother)
      exact henvelope hmatches

/-- What cannot be parsed has no body. -/
theorem not_hasBody_of_unreadable {bytes : Text.Bytes} {fault : DocumentFault}
    (h : Element.parse bytes = .error fault) (body : Element) : ¬ HasBody bytes body := by
  rintro ⟨envelope, hread, -⟩
  rw [h] at hread
  cases hread

/-- Without a body there is no way to a fault, an exception or a payload. -/
theorem classified_of_no_body {bytes : Text.Bytes} {error : ClientError}
    (hno : ∀ body, ¬ HasBody bytes body) (hplain : error.isFault = false)
    (hunreadable : ∀ {fault : DocumentFault}, Element.parse bytes = .error fault →
      error = .parse (.document fault))
    (hastray : ∀ {envelope : Element}, Element.parse bytes = .ok envelope →
      ∃ fault, error = .protocol fault) :
    Classified bytes (.error error) where
  unreadable hread := by rw [hunreadable hread]
  fault hbody := absurd hbody (hno _)
  exception hbody := absurd hbody (hno _)
  payload hbody := absurd hbody (hno _)
  astray hread _ _ := by
    obtain ⟨fault, rfl⟩ := hastray hread
    exact ⟨fault, rfl⟩
  answered := nofun
  refused := by
    rintro error ⟨⟩
    rw [hplain]
    refine iff_of_false (by decide) ?_
    rintro (⟨body, hbody, -⟩ | ⟨-, body, -, hbody, -⟩)
    · exact hno body hbody
    · exact hno body hbody

/-- Behind a body without a fault the payload decides. -/
theorem classified_of_body {bytes : Text.Bytes} {body : Element}
    {answer : Except ClientError Element} (hbody : HasBody bytes body)
    (hnone : ¬ body.Has (some soapNamespace) "Fault")
    (hexception : ∀ {root : Element}, IsPayload body root → root.Has none "Exception" →
      ∃ code description, readException? root = some (.serverException code description) ∧
        answer = .error (.serverException code description))
    (hpayload : ∀ {root : Element}, IsPayload body root → ¬ root.Has none "Exception" →
      answer = .ok root)
    (hastray : (∀ root, ¬ IsPayload body root) → ∃ fault, answer = .error (.protocol fault)) :
    Classified bytes answer := by
  have hfault : ¬ CarriesFault bytes := fun h => hnone ((carriesFault_iff hbody).mp h)
  -- What the answer is follows from the payload, so the payload can be read off the answer.
  have hcases : (∃ root, IsPayload body root ∧ root.Has none "Exception") ∨
      (∃ root, IsPayload body root ∧ ¬ root.Has none "Exception") ∨
        ∀ root, ¬ IsPayload body root := by
    by_cases h : ∃ root, IsPayload body root
    · obtain ⟨root, hroot⟩ := h
      by_cases hhas : root.Has none "Exception"
      · exact .inl ⟨root, hroot, hhas⟩
      · exact .inr (.inl ⟨root, hroot, hhas⟩)
    · exact .inr (.inr fun root hroot => h ⟨root, hroot⟩)
  refine ⟨?_, ?_, ?_, ?_, ?_, ?_, ?_⟩
  · exact fun hread => absurd hbody (not_hasBody_of_unreadable hread body)
  · exact fun hother hfirst => absurd ⟨_, hother, hfirst.has⟩ hfault
  · intro other root hother _ hroot hhas
    obtain rfl := hbody.unique hother
    exact hexception hroot hhas
  · intro other root hother _ hroot hlacks
    obtain rfl := hbody.unique hother
    exact hpayload hroot hlacks
  · exact fun _ _ hno => hastray fun root => hno body root hbody
  · rintro root rfl
    rcases hcases with ⟨other, hroot, hhas⟩ | ⟨other, hroot, hlacks⟩ | hno
    · obtain ⟨code, description, -, h⟩ := hexception hroot hhas
      cases h
    · obtain rfl := Except.ok.inj (hpayload hroot hlacks)
      refine ⟨hfault, ?_, body, hbody, hroot⟩
      rw [carriesException_iff hbody hnone]
      rintro ⟨root', hroot', hhas⟩
      exact hlacks (hroot.unique hroot' ▸ hhas)
    · obtain ⟨fault, h⟩ := hastray hno
      cases h
  · rintro error rfl
    rw [carriesException_iff hbody hnone]
    rcases hcases with ⟨root, hroot, hhas⟩ | ⟨root, hroot, hlacks⟩ | hno
    · obtain ⟨code, description, -, h⟩ := hexception hroot hhas
      obtain rfl := Except.error.inj h
      exact iff_of_true rfl (.inr ⟨root, hroot, hhas⟩)
    · cases hpayload hroot hlacks
    · obtain ⟨fault, h⟩ := hastray hno
      obtain rfl := Except.error.inj h
      refine iff_of_false nofun ?_
      rintro (h | ⟨root, hroot, -⟩)
      · exact hfault h
      · exact hno root hroot

/-- A verdict classifies the response, since fault, exception and payload exclude each other. -/
theorem Verdict.classified {bytes : Text.Bytes} {answer : Except ClientError Element}
    (h : Verdict bytes answer) : Classified bytes answer := by
  cases h with
  | unreadable hread =>
    refine classified_of_no_body (not_hasBody_of_unreadable hread) rfl ?_ ?_
    · intro other hother
      rw [Except.error.inj (hread.symm.trans hother)]
    · intro envelope hother
      rw [hread] at hother
      cases hother
  | @bodiless fault envelope hread hno =>
    refine classified_of_no_body hno rfl ?_ fun _ => ⟨fault, rfl⟩
    intro other hother
    rw [hread] at hother
    cases hother
  | @fault body fault hbody hfirst =>
    have hcarries : CarriesFault bytes := ⟨body, hbody, hfirst.has⟩
    refine ⟨?_, ?_, ?_, ?_, ?_, nofun, ?_⟩
    · exact fun hread => absurd hbody (not_hasBody_of_unreadable hread body)
    · intro other fault' hother hfirst'
      obtain rfl := hbody.unique hother
      rw [hfirst.unique hfirst']
    · exact fun _ hnone => absurd hcarries hnone
    · exact fun _ hnone => absurd hcarries hnone
    · exact fun _ hnone => absurd hcarries hnone
    · rintro error ⟨⟩
      exact iff_of_true rfl (.inl hcarries)
  | @astray fault body hbody hnone hno =>
    refine classified_of_body hbody hnone ?_ ?_ fun _ => ⟨fault, rfl⟩
    · exact fun hroot => absurd hroot (hno _)
    · exact fun hroot => absurd hroot (hno _)
  | @exception body root code description hbody hnone hroot hhas hread =>
    refine classified_of_body hbody hnone ?_ ?_ fun hno => absurd hroot (hno root)
    · intro other hother _
      obtain rfl := hroot.unique hother
      exact ⟨code, description, hread, rfl⟩
    · intro other hother hlacks
      obtain rfl := hroot.unique hother
      exact absurd hhas hlacks
  | @payload body root hbody hnone hroot hlacks =>
    refine classified_of_body hbody hnone ?_ ?_ fun hno => absurd hroot (hno root)
    · intro other hother hhas
      obtain rfl := hroot.unique hother
      exact absurd hhas hlacks
    · intro other hother _
      rw [hroot.unique hother]

/-- Every response is answered as its document demands. -/
theorem classified (bytes : Text.Bytes) : Classified bytes (parseResponse bytes) :=
  (verdict bytes).classified

end CubeClient.Envelope
