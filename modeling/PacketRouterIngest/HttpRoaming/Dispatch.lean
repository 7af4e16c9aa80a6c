import PacketRouterIngest.HttpRoaming.Downlink

/-! Which of the three records a message is taken for. Its `MessageType` and
its `ResultCode` only have to be texts; what decides is which fields it has. -/
namespace PacketRouter.HttpRoaming

open Rust Serde Serde.Value

/-- The value has a result whose code is a text. -/
def HasResult (value : Value) : Prop :=
  ∃ result m, value.given PRStartAns.fields "Result" = some result ∧
    PRStartAnsResult.fromValue result = .ok m

/-- The response repeats the transaction of the value, which has some type. -/
structure Echoes (value : Value) (response : HttpResponse) : Prop where
  transaction : value.given Header.fields "TransactionID" =
    some (.number (.posInt response.transactionId))
  typed : ∃ text, value.given Header.fields "MessageType" = some (.string text)

variable {value : Value}

/-- The transaction and the type of a message stand in its first fields. -/
theorem echoes_of_header {more : List (FieldReader Value)} {members : List (String × Value)}
    {header : Header} {response : HttpResponse}
    (hMembers : value.members (Header.fields ++ more) = some members)
    (hHeader : Header.build members = .ok header)
    (hTransaction : response.transactionId = header.transactionId) : Echoes value response := by
  obtain ⟨-, -, -, hId, hType⟩ := Header.build_eq_ok.mp hHeader
  have hGiven (name : String) (hName : name ∈ Header.fields.map Prod.fst) :
      value.given Header.fields name = members.lookup name := by
    rw [← given_append hName, given, hMembers]
    rfl
  constructor
  · obtain ⟨content, hLookup, hRead⟩ := field_eq_ok.mp hId
    rw [hGiven "TransactionID" (by simp [Header.fields]), hLookup, hTransaction]
    rw [readU64_eq_ok.mp hRead]
  · obtain ⟨content, hLookup, hRead⟩ := field_eq_ok.mp hType
    rw [hGiven "MessageType" (by simp [Header.fields]), hLookup]
    exact ⟨header.messageType, by rw [readString_eq_ok.mp hRead]⟩

theorem PRStartAns.hasResult {m : PRStartAns} (h : PRStartAns.fromValue value = .ok m) :
    HasResult value := by
  obtain ⟨members, hMembers, -, -, hBuild⟩ := readRecord_eq_ok.mp h
  obtain ⟨-, hResult, -, -⟩ := PRStartAns.build_eq_ok.mp hBuild
  obtain ⟨content, hLookup, hRead⟩ := field_eq_ok.mp hResult
  exact ⟨content, m.result, by rw [given, hMembers]; exact hLookup, hRead⟩

/-- A result makes a `PRStartAns` out of every `XmitDataReq`. -/
theorem XmitDataReq.not_hasResult {m : XmitDataReq} (hDistinct : value.Distinct)
    (h : XmitDataReq.fromValue value = .ok m) (hFailed : (PRStartAns.fromValue value).Failed) :
    ¬ HasResult value := by
  rintro ⟨content, result, hGiven, hResult⟩
  cases value with
  | object members =>
      obtain ⟨hHeader, hPayload, hMeta⟩ :=
        XmitDataReq.build_eq_ok.mp ((fromValue_object hDistinct).mp h)
      have hBuild : PRStartAns.fromValue (.object members) =
          .ok ⟨m.toHeader, result, m.phyPayload, m.dlMetaData⟩ := by
        rw [PRStartAns.fromValue_object hDistinct, PRStartAns.build_eq_ok]
        exact ⟨hHeader, field_eq_ok.mpr ⟨content, hGiven, hResult⟩, hPayload, hMeta⟩
      rw [hBuild] at hFailed
      exact Outcome.failed_ok _ hFailed
  | array elements =>
      -- The sixth element is the payload of one record and the result of the other.
      obtain ⟨members, hMembers, -, -, hBuild⟩ := readRecord_eq_ok.mp h
      obtain ⟨-, hPayload, -⟩ := XmitDataReq.build_eq_ok.mp hBuild
      obtain ⟨payload, hLookup, hText⟩ := field_eq_ok.mp hPayload
      have hSixth : given XmitDataReq.fields "PHYPayload" (.array elements) = some payload := by
        rw [given, hMembers]
        exact hLookup
      rw [given_array (by decide)] at hGiven hSixth
      obtain rfl := Option.some.inj (hGiven.symm.trans hSixth)
      rw [readString_eq_ok.mp hText] at hResult
      cases hResult
  | _ => cases hGiven

/-- Reading these fields gives the same transaction, and whatever else differs
is not told apart. -/
theorem Header.similar_build {more : List (FieldReader Value)} {changed : String → Prop}
    {f : Value → Value} {members members' : List (String × Value)}
    (h : Alters changed f members members') (hTransaction : ¬ changed "TransactionID")
    (hRead : ∀ name read, changed name → (Header.fields ++ more).lookup name = some read →
      ∀ content, read (f content) = read content) :
    Outcome.Similar (fun header header' => header'.transactionId = header.transactionId)
      (Header.build members) (Header.build members') := by
  apply (h.field_any hRead rfl).bind; intro _ _ _
  apply (h.field_any hRead rfl).bind; intro _ _ _
  apply (h.field_any hRead rfl).bind; intro _ _ _
  apply (h.field_eq hTransaction).bind; intro transactionId _ hSame
  apply (h.field_any hRead rfl).bind; intro _ _ _
  exact .ok hSame.symm

/-- The parts of an answer that a downlink is made of. -/
def PRStartAns.SameDownlink (m m' : PRStartAns) : Prop :=
  m'.transactionId = m.transactionId ∧ m'.phyPayload = m.phyPayload ∧ m'.dlMetaData = m.dlMetaData

def XmitDataReq.SameDownlink (m m' : XmitDataReq) : Prop :=
  m'.transactionId = m.transactionId ∧ m'.phyPayload = m.phyPayload ∧ m'.dlMetaData = m.dlMetaData

section

variable {fields : List (FieldReader Value)} {name : String} {f : Value → Value}

theorem PRStartAns.similar_fromValue
    (hOwn : ∀ own, AtPlace fields PRStartAns.fields name own → own = "MessageType" ∨ own = "Result")
    (hRead : ∀ own read, AtPlace fields PRStartAns.fields name own →
      PRStartAns.fields.lookup own = some read → ∀ content, read (f content) = read content) :
    Outcome.Similar PRStartAns.SameDownlink (PRStartAns.fromValue value)
      (PRStartAns.fromValue (value.modify fields name f)) := by
  refine readRecord_modify value hRead fun members members' h => ?_
  have hOther (own : String) (hType : own ≠ "MessageType") (hResult : own ≠ "Result") :
      ¬ AtPlace fields PRStartAns.fields name own :=
    fun hPlace => (hOwn own hPlace).elim hType hResult
  apply (Header.similar_build h (hOther _ (by decide) (by decide)) hRead).bind
  intro header header' hHeader
  apply (h.field_any hRead rfl).bind; intro _ _ _
  apply (h.field_eq (hOther "PHYPayload" (by decide) (by decide))).bind; rintro phyPayload _ rfl
  apply (h.field_eq (hOther "DLMetaData" (by decide) (by decide))).bind; rintro dlMetaData _ rfl
  exact .ok ⟨hHeader, rfl, rfl⟩

theorem PRStartAnsPlain.similar_fromValue
    (hOwn : ∀ own, AtPlace fields PRStartAnsPlain.fields name own →
      own = "MessageType" ∨ own = "Result")
    (hRead : ∀ own read, AtPlace fields PRStartAnsPlain.fields name own →
      PRStartAnsPlain.fields.lookup own = some read → ∀ content, read (f content) = read content) :
    Outcome.Similar (fun _ _ => True) (PRStartAnsPlain.fromValue value)
      (PRStartAnsPlain.fromValue (value.modify fields name f)) := by
  refine readRecord_modify value hRead fun members members' h => ?_
  have hOther : ¬ AtPlace fields PRStartAnsPlain.fields name "TransactionID" :=
    fun hPlace => (hOwn _ hPlace).elim (by decide) (by decide)
  apply (Header.similar_build h hOther hRead).bind; intro _ _ _
  apply (h.field_any hRead rfl).bind; intro _ _ _
  exact .ok trivial

/-- In a sequence the payload of a request stands where an answer has its result. -/
theorem XmitDataReq.similar_fromValue
    (hOwn : ∀ own, AtPlace fields XmitDataReq.fields name own →
      own = "MessageType" ∨ own = "Result" ∨ own = "PHYPayload")
    (hRead : ∀ own read, AtPlace fields XmitDataReq.fields name own →
      XmitDataReq.fields.lookup own = some read → ∀ content, read (f content) = read content)
    (hText : AtPlace fields XmitDataReq.fields name "PHYPayload" →
      ∀ content, readString (f content) = readString content) :
    Outcome.Similar XmitDataReq.SameDownlink (XmitDataReq.fromValue value)
      (XmitDataReq.fromValue (value.modify fields name f)) := by
  refine readRecord_modify value hRead fun members members' h => ?_
  have hOther (own : String) (hType : own ≠ "MessageType") (hResult : own ≠ "Result")
      (hPayload : own ≠ "PHYPayload") : ¬ AtPlace fields XmitDataReq.fields name own :=
    fun hPlace => (hOwn own hPlace).elim hType fun h => h.elim hResult hPayload
  apply (Header.similar_build h (hOther _ (by decide) (by decide) (by decide)) hRead).bind
  intro header header' hHeader
  have hPhyPayload : Outcome.Similar Eq (field readString "PHYPayload" members)
      (field readString "PHYPayload" members') := by
    refine h.field (fun _ => rfl) fun hPlace content => ?_
    rw [hText hPlace]
    exact .refl (fun _ => rfl) _
  apply hPhyPayload.bind; rintro phyPayload _ rfl
  apply (h.field_eq (hOther "DLMetaData" (by decide) (by decide) (by decide))).bind
  rintro dlMetaData _ rfl
  exact .ok ⟨hHeader, rfl, rfl⟩

end

/-- Values that are read alike yield the same. -/
theorem parse_congr {value' : Value} (settings : RoamingSettings)
    (hPrStart : Outcome.Similar PRStartAns.SameDownlink (PRStartAns.fromValue value)
      (PRStartAns.fromValue value'))
    (hXmit : Outcome.Similar XmitDataReq.SameDownlink (XmitDataReq.fromValue value)
      (XmitDataReq.fromValue value'))
    (hPlain : Outcome.Similar (fun _ _ => True) (PRStartAnsPlain.fromValue value)
      (PRStartAnsPlain.fromValue value')) :
    parseHttpPayload value' settings = parseHttpPayload value settings := by
  rw [parseHttpPayload, parseHttpPayload]
  generalize PRStartAns.fromValue value = prStart, PRStartAns.fromValue value' = prStart' at hPrStart
  generalize XmitDataReq.fromValue value = xmit, XmitDataReq.fromValue value' = xmit' at hXmit
  generalize PRStartAnsPlain.fromValue value = plain, PRStartAnsPlain.fromValue value' = plain'
    at hPlain
  cases hPrStart with
  | panic reason => rfl
  | ok hSame =>
      obtain ⟨hTransaction, hPayload, hMeta⟩ := hSame
      simp only [PRStartAns.toPacketDown, PRStartAns.gateway, PRStartAns.httpBody, hTransaction,
        hPayload, hMeta]
  | err error =>
      cases hXmit with
      | panic reason => rfl
      | ok hSame =>
          obtain ⟨hTransaction, hPayload, hMeta⟩ := hSame
          simp only [XmitDataReq.toPacketDown, XmitDataReq.gateway, XmitDataReq.httpBody,
            hTransaction, hPayload, hMeta]
      | err error' =>
          cases hPlain with
          | ok | err | panic => rfl

/-- The value with this message type and this result code in the place of its
own, where it has texts there. -/
def retyped (messageType code : String) (value : Value) : Value :=
  (value.modify PRStartAns.fields "MessageType" (retext messageType)).modify PRStartAns.fields
    "Result" (modify PRStartAnsResult.fields "ResultCode" (retext code))

theorem check_retext (text : String) (content : Value) :
    check readString (retext text content) = check readString content := by
  cases content <;> rfl

theorem readString_modify {fields : List (FieldReader Value)} {name : String} {f : Value → Value}
    (content : Value) : readString (content.modify fields name f) = readString content := by
  cases content <;> rfl

/-- The code of a result is any text. -/
theorem check_recoded (code : String) (content : Value) :
    check PRStartAnsResult.fromValue
        (content.modify PRStartAnsResult.fields "ResultCode" (retext code)) =
      check PRStartAnsResult.fromValue content := by
  have hRead : ∀ own read, AtPlace PRStartAnsResult.fields PRStartAnsResult.fields "ResultCode" own →
      PRStartAnsResult.fields.lookup own = some read →
      ∀ content, read (retext code content) = read content := by
    intro own read hPlace hKnown content
    obtain rfl : own = "ResultCode" := hPlace.elim id fun h => (Option.some.inj h).symm
    obtain rfl := Option.some.inj hKnown
    exact check_retext code content
  refine check_eq_check.mpr (readRecord_modify content hRead fun members members' h => ?_)
  apply (h.field_any hRead rfl).bind; intro _ _ _
  exact .ok trivial

/-- All messages have their type at one place. -/
theorem eq_of_atPlace_type {more : List (FieldReader Value)} {own : String}
    (h : AtPlace PRStartAns.fields (Header.fields ++ more) "MessageType" own) :
    own = "MessageType" := by
  rcases h with rfl | h
  · rfl
  · exact (Option.some.inj h).symm

theorem read_type {more : List (FieldReader Value)} (messageType : String) (own : String)
    (read : Value → Outcome Error Unit)
    (hPlace : AtPlace PRStartAns.fields (Header.fields ++ more) "MessageType" own)
    (hKnown : (Header.fields ++ more).lookup own = some read) (content : Value) :
    read (retext messageType content) = read content := by
  obtain rfl := eq_of_atPlace_type hPlace
  obtain rfl := Option.some.inj hKnown
  exact check_retext messageType content

/-- Answers, with a downlink and without, have their result at one place. -/
theorem eq_of_atPlace_result {more : List (FieldReader Value)} {own : String}
    (h : AtPlace PRStartAns.fields
      (Header.fields ++ ("Result", check PRStartAnsResult.fromValue) :: more) "Result" own) :
    own = "Result" := by
  rcases h with rfl | h
  · rfl
  · exact (Option.some.inj h).symm

theorem read_result {more : List (FieldReader Value)} (code : String) (own : String)
    (read : Value → Outcome Error Unit)
    (hPlace : AtPlace PRStartAns.fields
      (Header.fields ++ ("Result", check PRStartAnsResult.fromValue) :: more) "Result" own)
    (hKnown : (Header.fields ++ ("Result", check PRStartAnsResult.fromValue) :: more).lookup own =
      some read) (content : Value) :
    read (content.modify PRStartAnsResult.fields "ResultCode" (retext code)) = read content := by
  obtain rfl := eq_of_atPlace_result hPlace
  obtain rfl := Option.some.inj hKnown
  exact check_recoded code content

theorem parse_modify_type (messageType : String) (value : Value) (settings : RoamingSettings) :
    parseHttpPayload (value.modify PRStartAns.fields "MessageType" (retext messageType)) settings =
      parseHttpPayload value settings := by
  refine parse_congr settings ?_ ?_ ?_
  · exact PRStartAns.similar_fromValue (fun _ h => .inl (eq_of_atPlace_type h))
      (read_type messageType)
  · refine XmitDataReq.similar_fromValue (fun _ h => .inl (eq_of_atPlace_type h))
      (read_type messageType) fun h => ?_
    exact absurd (eq_of_atPlace_type h) (by decide)
  · exact PRStartAnsPlain.similar_fromValue (fun _ h => .inl (eq_of_atPlace_type h))
      (read_type messageType)

theorem parse_modify_code (code : String) (value : Value) (settings : RoamingSettings) :
    parseHttpPayload (value.modify PRStartAns.fields "Result"
        (modify PRStartAnsResult.fields "ResultCode" (retext code))) settings =
      parseHttpPayload value settings := by
  have hXmit {own : String} (h : AtPlace PRStartAns.fields XmitDataReq.fields "Result" own) :
      own = "Result" ∨ own = "PHYPayload" :=
    h.imp_right fun h => (Option.some.inj h).symm
  refine parse_congr settings ?_ ?_ ?_
  · exact PRStartAns.similar_fromValue (fun _ h => .inr (eq_of_atPlace_result h)) (read_result code)
  · refine XmitDataReq.similar_fromValue (fun _ h => .inr (hXmit h)) ?_ fun _ => readString_modify
    intro own read hPlace hKnown content
    obtain rfl | rfl := hXmit hPlace
    · cases hKnown
    · obtain rfl := Option.some.inj hKnown
      rw [check, check, readString_modify]
  · exact PRStartAnsPlain.similar_fromValue (fun _ h => .inr (eq_of_atPlace_result h))
      (read_result code)

/-- Neither text is compared with anything. -/
theorem parse_retyped (messageType code : String) (value : Value) (settings : RoamingSettings) :
    parseHttpPayload (retyped messageType code value) settings = parseHttpPayload value settings :=
  (parse_modify_code code _ settings).trans (parse_modify_type messageType value settings)

/-- **Dispatch.** A value that yields a downlink has a type and a transaction,
which the response repeats. The response is a `PRStartNotif` exactly if the
value has a result, and an `XmitDataAns` otherwise. With any other texts for its
type and its code the value yields the same downlink. -/
theorem downlink_of_shape {settings : RoamingSettings} {pd : PacketDown}
    (hDistinct : value.Distinct) (hParse : parseHttpPayload value settings = .ok (some pd)) :
    Echoes value pd.httpResponse ∧
      (pd.httpResponse.messageType = .prStartNotif ↔ HasResult value) ∧
      (pd.httpResponse.messageType = .xmitDataAns ↔ ¬ HasResult value) ∧
      ∀ messageType code,
        parseHttpPayload (retyped messageType code value) settings = .ok (some pd) := by
  have hAny (messageType code : String) :
      parseHttpPayload (retyped messageType code value) settings = .ok (some pd) :=
    (parse_retyped messageType code value settings).trans hParse
  rcases parseHttpPayload_eq_some.mp hParse with
    ⟨m, hRead, -, -, hResponse⟩ | ⟨hFailed, m, hRead, -, -, hResponse⟩
  · have hResult : HasResult value := PRStartAns.hasResult hRead
    obtain ⟨members, hMembers, -, -, hBuild⟩ := readRecord_eq_ok.mp hRead
    refine ⟨echoes_of_header hMembers (PRStartAns.build_eq_ok.mp hBuild).1 ?_, ?_, ?_, hAny⟩
    · rw [hResponse]
      rfl
    · simp [hResponse, PRStartAns.httpBody, hResult]
    · simp [hResponse, PRStartAns.httpBody, hResult]
  · have hResult : ¬ HasResult value := XmitDataReq.not_hasResult hDistinct hRead hFailed
    obtain ⟨members, hMembers, -, -, hBuild⟩ := readRecord_eq_ok.mp hRead
    refine ⟨echoes_of_header hMembers (XmitDataReq.build_eq_ok.mp hBuild).1 ?_, ?_, ?_, hAny⟩
    · rw [hResponse]
      rfl
    · simp [hResponse, XmitDataReq.httpBody, hResult]
    · simp [hResponse, XmitDataReq.httpBody, hResult]

/-- The token of a join in the sample messages. -/
def sampleToken : String := makeJoinToken ⟨"gateway"⟩ 100 .us915

theorem decodes_sampleToken : Token.Decodes sampleToken ⟨100, ⟨"gateway"⟩, .us915, .join⟩ :=
  Token.decodes_makeJoinToken ..

/-- Every sample message with a result is taken for a `PRStartAns`. -/
theorem parse_sampleMessage (messageType code : String) (settings : RoamingSettings) :
    ∃ pd, parseHttpPayload (sampleMessage messageType (sampleResult code) "00"
        (sampleMetaData "A" sampleToken)) settings = .ok (some pd) ∧
      pd.httpResponse.messageType = .prStartNotif ∧ pd.downlink = ⟨[0], none, none⟩ := by
  obtain ⟨m, hRead, hPayload, hMeta⟩ : ∃ m, PRStartAns.fromValue (sampleMessage messageType
      (sampleResult code) "00" (sampleMetaData "A" sampleToken)) = .ok m ∧ m.phyPayload = "00" ∧
      m.dlMetaData = ⟨"0000000000000003", ⟨100, ⟨"gateway"⟩, .us915, .join⟩, .a,
        none, none, none, none, none⟩ :=
    ⟨_, fromValue_sampleMessage (fromValue_sampleMetaData decodes_sampleToken), rfl, rfl⟩
  have hDown : m.toPacketDown = .ok ⟨[0], none, none⟩ := by
    rw [PRStartAns.toPacketDown_eq_ok, hPayload, hMeta]
    exact ⟨by decide, rfl, rfl⟩
  exact ⟨⟨⟨[0], none, none⟩, m.gateway, m.httpBody settings⟩,
    (PRStartAns.parse_eq_some hRead).mpr ⟨hDown, rfl, rfl⟩, rfl, rfl⟩

example (phyPayload : String) (metaData : Value) :
    retyped "HomeNSAns" "MICFailed" (sampleMessage "PRStartAns" (sampleResult "Success") phyPayload
      metaData) = sampleMessage "HomeNSAns" (sampleResult "MICFailed") phyPayload metaData := rfl

/-- An answer that says `MICFailed` is transmitted, a message that says
`XmitDataReq` is answered with a `PRStartNotif`, and so is one that says neither. -/
theorem types_ignored :
    (∃ pd, parseHttpPayload (sampleMessage "PRStartAns" (sampleResult "MICFailed") "00"
      (sampleMetaData "A" sampleToken)) HttpSettings.sample.roaming = .ok (some pd)) ∧
    (∃ pd, parseHttpPayload (sampleMessage "XmitDataReq" (sampleResult "Success") "00"
      (sampleMetaData "A" sampleToken)) HttpSettings.sample.roaming = .ok (some pd) ∧
      pd.httpResponse.messageType = .prStartNotif) ∧
    ∃ pd, parseHttpPayload (sampleMessage "HomeNSAns" (sampleResult "Success") "00"
      (sampleMetaData "A" sampleToken)) HttpSettings.sample.roaming = .ok (some pd) ∧
      pd.httpResponse.messageType = .prStartNotif := by
  obtain ⟨pd, hParse, -⟩ := parse_sampleMessage "PRStartAns" "MICFailed" HttpSettings.sample.roaming
  obtain ⟨pd', hParse', hType, -⟩ :=
    parse_sampleMessage "XmitDataReq" "Success" HttpSettings.sample.roaming
  obtain ⟨other, hOther, hOtherType, -⟩ :=
    parse_sampleMessage "HomeNSAns" "Success" HttpSettings.sample.roaming
  exact ⟨⟨pd, hParse⟩, ⟨pd', hParse', hType⟩, other, hOther, hOtherType⟩

/-- The answer with `Success` echoes its transaction in a `PRStartNotif`, and so
does the same answer under another type and with another code. -/
theorem sample_of_shape :
    ∃ pd, parseHttpPayload (sampleMessage "PRStartAns" (sampleResult "Success") "00"
        (sampleMetaData "A" sampleToken)) HttpSettings.sample.roaming = .ok (some pd) ∧
      Echoes (sampleMessage "PRStartAns" (sampleResult "Success") "00"
        (sampleMetaData "A" sampleToken)) pd.httpResponse ∧
      pd.httpResponse.messageType = .prStartNotif ∧
      parseHttpPayload (sampleMessage "HomeNSAns" (sampleResult "MICFailed") "00"
        (sampleMetaData "A" sampleToken)) HttpSettings.sample.roaming = .ok (some pd) := by
  obtain ⟨pd, hParse, hType, -⟩ :=
    parse_sampleMessage "PRStartAns" "Success" HttpSettings.sample.roaming
  have hDistinct : (sampleMessage "PRStartAns" (sampleResult "Success") "00"
      (sampleMetaData "A" sampleToken)).Distinct := by
    simp [sampleMessage, sampleResult, Distinct]
  obtain ⟨hEchoes, -, -, hAny⟩ := downlink_of_shape hDistinct hParse
  exact ⟨pd, hParse, hEchoes, hType, hAny "HomeNSAns" "MICFailed"⟩

def Absent (name : String) (value : Value) : Prop :=
  value.member name = none ∨ value.member name = some .null

def CarriesNoDownlink (value : Value) : Prop :=
  Absent "DLMetaData" value ∨ Absent "PHYPayload" value

/-- The payload is a text and the metadata can be read. -/
def DownlinkReadable (value : Value) : Prop :=
  (∃ text, value.member "PHYPayload" = some (.string text)) ∧
    ∃ metaData m, value.member "DLMetaData" = some metaData ∧ DLMetaData.fromValue metaData = .ok m

/-- The value is an object with a payload that is a text and metadata that are an
object. -/
def OffersDownlink (value : Value) : Prop :=
  (∃ text, value.member "PHYPayload" = some (.string text)) ∧
    ∃ metaData, value.member "DLMetaData" = some (.object metaData)

/-- Nothing makes the readers panic, and whatever has the fields of a plain
answer has a downlink that can be read. -/
def Answerable (value : Value) : Prop :=
  Digestible value ∧ ((∃ m, PRStartAnsPlain.fromValue value = .ok m) → DownlinkReadable value)

/-- Whatever has the fields of a plain answer carries no downlink, or one that
can be read, or one whose token makes the reader panic. -/
def Unswallowed (value : Value) : Prop :=
  (∃ m, PRStartAnsPlain.fromValue value = .ok m) →
    CarriesNoDownlink value ∨ DownlinkReadable value ∨
      ∃ text, ReachesToken PRStartAns.fields value text ∧ ¬ ∃ token, Token.Decodes text token

theorem PRStartAnsPlain.hasResult {m : PRStartAnsPlain}
    (h : PRStartAnsPlain.fromValue value = .ok m) (hObject : ∃ members, value = .object members) :
    HasResult value := by
  obtain ⟨members, rfl⟩ := hObject
  obtain ⟨_, ⟨⟩, -, -, hBuild⟩ := readRecord_eq_ok.mp h
  obtain ⟨content, hLookup, hRead⟩ := field_eq_ok.mp (PRStartAnsPlain.build_eq_ok.mp hBuild).2
  exact ⟨content, m.result, hLookup, hRead⟩

section

variable {members : List (String × Value)} (hDistinct : (members.map Prod.fst).Nodup)
include hDistinct

/-- A plain answer is a full one if its downlink can be read. -/
theorem PRStartAns.fromValue_of_plain {plain : PRStartAnsPlain}
    (hPlain : PRStartAnsPlain.fromValue (.object members) = .ok plain) :
    (∃ m, PRStartAns.fromValue (.object members) = .ok m) ↔ DownlinkReadable (.object members) := by
  rw [PRStartAnsPlain.fromValue_object hDistinct, PRStartAnsPlain.build_eq_ok] at hPlain
  simp only [fromValue_object hDistinct, build_eq_ok]
  constructor
  · rintro ⟨m, -, -, hPayload, hMeta⟩
    obtain ⟨content, hText, hRead⟩ := field_eq_ok.mp hPayload
    obtain ⟨metaData, hGiven, hMeta⟩ := field_eq_ok.mp hMeta
    rw [readString_eq_ok.mp hRead] at hText
    exact ⟨⟨m.phyPayload, hText⟩, metaData, m.dlMetaData, hGiven, hMeta⟩
  · rintro ⟨⟨text, hText⟩, metaData, m, hGiven, hMeta⟩
    exact ⟨⟨plain.toHeader, plain.result, text, m⟩, hPlain.1, hPlain.2,
      field_eq_ok.mpr ⟨_, hText, rfl⟩, field_eq_ok.mpr ⟨_, hGiven, hMeta⟩⟩

/-- The reader of a full answer gets as far into a plain one as the reader of
an `XmitDataReq` does. -/
theorem PRStartAns.panicked_of_xmit {plain : PRStartAnsPlain}
    (hPlain : PRStartAnsPlain.fromValue (.object members) = .ok plain)
    (hXmit : (XmitDataReq.fromValue (.object members)).Panicked) :
    (PRStartAns.fromValue (.object members)).Panicked := by
  rw [PRStartAnsPlain.fromValue_object hDistinct] at hPlain
  rw [XmitDataReq.fromValue_panicked] at hXmit
  rw [fromValue_panicked]
  obtain ⟨text, ⟨_, metaData, ⟨⟩, ⟨before, after, hSplit, hVisit, hFirst⟩, hReach⟩, hToken⟩ := hXmit
  have hBefore : (before.map Prod.fst).Nodup := by
    rw [hSplit, List.map_append] at hDistinct
    exact (List.nodup_append.mp hDistinct).1
  have hMember {name : String} {content : Value} (hLookup : before.lookup name = some content) :
      members.lookup name = some content := by
    apply lookup_of_mem hDistinct
    rw [hSplit]
    exact List.mem_append_left _ (mem_of_lookup hLookup)
  have hWhole : visitMembers PRStartAns.fields [] before = .ok () := by
    apply visitMembers_of_distinct hBefore
    intro name content read hLookup hKnown
    by_cases hName : name = "Result"
    · apply PRStartAnsPlain.read_of_build hPlain ?_ (hMember hLookup)
      rw [hName] at hKnown ⊢
      obtain rfl := Option.some.inj hKnown
      simp [PRStartAnsPlain.fields]
    · have hMem := mem_of_lookup hKnown
      have hSome : XmitDataReq.fields.lookup name = some read := by
        apply lookup_of_mem (by decide)
        simpa [PRStartAns.fields, XmitDataReq.fields, hName] using hMem
      exact read_of_visited hVisit hSome hLookup
  exact ⟨text, ⟨members, metaData, rfl, ⟨before, after, hSplit, hWhole, hFirst⟩, hReach⟩, hToken⟩

end

/-- An object that is not accepted as an answer without a downlink is none, or
is taken for an answer with one. -/
theorem parse_object_eq_none {members : List (String × Value)} {settings : RoamingSettings}
    (hDistinct : (members.map Prod.fst).Nodup) :
    parseHttpPayload (.object members) settings = .ok none ↔
      (∃ m, PRStartAnsPlain.fromValue (.object members) = .ok m) ∧
        (PRStartAns.fromValue (.object members)).Failed := by
  rw [parseHttpPayload_eq_none]
  constructor
  · rintro ⟨hFailed, -, hPlain⟩
    exact ⟨hPlain, hFailed⟩
  · rintro ⟨⟨plain, hPlain⟩, hFailed⟩
    refine ⟨hFailed, ?_, plain, hPlain⟩
    obtain ⟨m, hXmit⟩ | hXmit | hXmit := (XmitDataReq.fromValue (.object members)).cases_on
    · exact absurd (PRStartAnsPlain.hasResult hPlain ⟨members, rfl⟩)
        (XmitDataReq.not_hasResult hDistinct hXmit hFailed)
    · exact hXmit
    · obtain ⟨error, hError⟩ := hFailed
      obtain ⟨reason, hPanic⟩ := PRStartAns.panicked_of_xmit hDistinct hPlain hXmit
      rw [hError] at hPanic
      cases hPanic

/-- Accepting a value without a downlink means that it carries none exactly for
the values that are not swallowed. -/
theorem carriesNoDownlink_iff (hDistinct : value.Distinct) (settings : RoamingSettings) :
    (parseHttpPayload value settings = .ok none → CarriesNoDownlink value) ↔
      Unswallowed value := by
  cases value with
  | object members =>
      rw [parse_object_eq_none hDistinct]
      constructor
      · rintro hCarries ⟨plain, hPlain⟩
        obtain hRead | hFailed | hPanic := (PRStartAns.fromValue (.object members)).cases_on
        · exact .inr (.inl ((PRStartAns.fromValue_of_plain hDistinct hPlain).mp hRead))
        · exact .inl (hCarries ⟨⟨plain, hPlain⟩, hFailed⟩)
        · exact .inr (.inr (PRStartAns.fromValue_panicked.mp hPanic))
      · rintro hUnswallowed ⟨⟨plain, hPlain⟩, error, hError⟩
        rcases hUnswallowed ⟨plain, hPlain⟩ with hNone | hRead | hPanic
        · exact hNone
        · obtain ⟨m, hOk⟩ := (PRStartAns.fromValue_of_plain hDistinct hPlain).mpr hRead
          rw [hError] at hOk
          cases hOk
        · obtain ⟨reason, hPanic⟩ := PRStartAns.fromValue_panicked.mpr hPanic
          rw [hError] at hPanic
          cases hPanic
  | _ => exact ⟨fun _ _ => .inl (.inl (.inl rfl)), fun _ _ => .inl (.inl rfl)⟩

/-- Parsing yields a downlink or an error if it neither panics nor accepts an
answer without a downlink. -/
theorem answered_iff {settings : RoamingSettings} :
    (∃ pd, parseHttpPayload value settings = .ok (some pd)) ∨
        (parseHttpPayload value settings).Failed ↔
      ¬ (parseHttpPayload value settings).Panicked ∧ parseHttpPayload value settings ≠ .ok none := by
  cases hParse : parseHttpPayload value settings with
  | ok result => cases result <;> simp
  | err | panic => simp

/-- An object that offers a downlink is answered with it or with an error exactly
if it is answerable. -/
theorem answerable_iff (hDistinct : value.Distinct) (settings : RoamingSettings)
    (hOffers : OffersDownlink value) :
    (∃ pd, parseHttpPayload value settings = .ok (some pd)) ∨
        (parseHttpPayload value settings).Failed ↔ Answerable value := by
  obtain ⟨⟨text, hText⟩, -⟩ := hOffers
  cases value with
  | object members =>
      rw [answered_iff, Answerable, parseHttpPayload_panicked, not_not, ne_eq,
        parse_object_eq_none hDistinct]
      refine and_congr_right fun hDigestible => ?_
      constructor
      · rintro hTaken ⟨plain, hPlain⟩
        refine (PRStartAns.fromValue_of_plain hDistinct hPlain).mp ?_
        obtain hRead | hFailed | hPanic := (PRStartAns.fromValue (.object members)).cases_on
        · exact hRead
        · exact absurd ⟨⟨plain, hPlain⟩, hFailed⟩ hTaken
        · exact absurd hPanic
            ((tokens_decode_iff PRStartAns.fromValue_panicked).mp hDigestible.prStartToken)
      · rintro hReadable ⟨⟨plain, hPlain⟩, error, hError⟩
        obtain ⟨m, hRead⟩ :=
          (PRStartAns.fromValue_of_plain hDistinct hPlain).mpr (hReadable ⟨plain, hPlain⟩)
        rw [hError] at hRead
        cases hRead
  | _ => cases hText

/-- **Swallowing.** Accepting a value without a downlink means that it carries
none exactly for the values that are not swallowed. An object that offers a
downlink is answered with it or with an error exactly if it is answerable. -/
theorem not_swallowed_iff (hDistinct : value.Distinct) (settings : RoamingSettings) :
    ((parseHttpPayload value settings = .ok none → CarriesNoDownlink value) ↔
      Unswallowed value) ∧
    ((OffersDownlink value → (∃ pd, parseHttpPayload value settings = .ok (some pd)) ∨
      (parseHttpPayload value settings).Failed) ↔ (OffersDownlink value → Answerable value)) :=
  ⟨carriesNoDownlink_iff hDistinct settings,
    forall_congr' fun hOffers => answerable_iff hDistinct settings hOffers⟩

/-- A downlink for a class that is not supported is accepted as an answer
without a downlink, and one whose token is not hexadecimal is not answered. -/
theorem classB_swallowed :
    (parseHttpPayload (sampleMessage "PRStartAns" (sampleResult "Success") "00"
        (sampleMetaData "B" sampleToken)) HttpSettings.sample.roaming = .ok none ∧
      ¬ CarriesNoDownlink (sampleMessage "PRStartAns" (sampleResult "Success") "00"
        (sampleMetaData "B" sampleToken)) ∧
      OffersDownlink (sampleMessage "PRStartAns" (sampleResult "Success") "00"
        (sampleMetaData "B" sampleToken))) ∧
    (parseHttpPayload (sampleMessage "PRStartAns" (sampleResult "Success") "00"
        (sampleMetaData "A" "zz")) HttpSettings.sample.roaming).Panicked ∧
      OffersDownlink (sampleMessage "PRStartAns" (sampleResult "Success") "00"
        (sampleMetaData "A" "zz")) := by
  refine ⟨⟨rfl, ?_, ⟨_, rfl⟩, _, rfl⟩, ⟨_, rfl⟩, ⟨_, rfl⟩, _, rfl⟩
  simp [CarriesNoDownlink, Absent, sampleMessage, sampleMetaData, member, List.lookup_cons]

/-- The same downlink for class A is not swallowed. -/
theorem sample_unswallowed :
    Unswallowed (sampleMessage "PRStartAns" (sampleResult "Success") "00"
      (sampleMetaData "A" sampleToken)) ∧
    Answerable (sampleMessage "PRStartAns" (sampleResult "Success") "00"
      (sampleMetaData "A" sampleToken)) := by
  have hDistinct : (sampleMessage "PRStartAns" (sampleResult "Success") "00"
      (sampleMetaData "A" sampleToken)).Distinct := by
    simp [sampleMessage, sampleResult, Distinct]
  obtain ⟨pd, hParse, -⟩ := parse_sampleMessage "PRStartAns" "Success" HttpSettings.sample.roaming
  obtain ⟨hUnswallowed, hAnswerable⟩ := not_swallowed_iff hDistinct HttpSettings.sample.roaming
  refine ⟨hUnswallowed.mp fun hNone => ?_, hAnswerable.mp (fun _ => .inl ⟨pd, hParse⟩) ?_⟩
  · rw [hNone] at hParse
    cases hParse
  · exact ⟨⟨_, rfl⟩, _, rfl⟩

end PacketRouter.HttpRoaming
