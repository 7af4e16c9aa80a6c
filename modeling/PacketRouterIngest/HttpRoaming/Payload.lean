import PacketRouterIngest.HttpRoaming.UlToken
import PacketRouterIngest.Serde.Value

/-! The messages of the network server, as they are read from JSON. A message
is a record whose `DLMetaData` is a record, whose token is a text. -/
namespace PacketRouter.HttpRoaming

open Rust Serde Serde.Value

inductive ClassMode where
  | a
  | c
deriving DecidableEq, Repr

def ClassMode.ofName (name : String) : Option ClassMode :=
  if name = "A" then some .a else if name = "C" then some .c else none

structure DLMetaData where
  devEui : String
  fnsUlToken : Token
  classMode : ClassMode
  dlFreq1 : Option Float
  dataRate1 : Option DR
  rxDelay1 : Option UInt64
  dlFreq2 : Option Float
  dataRate2 : Option DR

/-- The fields that all messages begin with. -/
structure Header where
  protocolVersion : String
  senderId : String
  receiverId : String
  transactionId : UInt64
  messageType : String
deriving DecidableEq, Repr

structure PRStartAnsResult where
  resultCode : String
deriving DecidableEq, Repr

structure XmitDataReq extends Header where
  phyPayload : String
  dlMetaData : DLMetaData

structure PRStartAns extends Header where
  result : PRStartAnsResult
  phyPayload : String
  dlMetaData : DLMetaData

/-- A `PRStartAns` that contains no downlink. -/
structure PRStartAnsPlain extends Header where
  result : PRStartAnsResult

/-- `hex::serde::deserialize` at tokens. -/
def Token.fromValue (value : Value) : Outcome Error Token := do
  let text ← readString value
  Token.fromHex text

namespace DLMetaData

def fields : List (FieldReader Value) :=
  [("DevEUI", check readString), ("FNSULToken", check Token.fromValue),
    ("ClassMode", check (readUnitVariant ClassMode.ofName)),
    ("DLFreq1", check (readOption readF64)), ("DataRate1", check (readOption readU8)),
    ("RXDelay1", check (readOption readU64)), ("DLFreq2", check (readOption readF64)),
    ("DataRate2", check (readOption readU8))]

def build (members : List (String × Value)) : Outcome Error DLMetaData := do
  return {
    devEui := ← field readString "DevEUI" members
    fnsUlToken := ← field Token.fromValue "FNSULToken" members
    classMode := ← field (readUnitVariant ClassMode.ofName) "ClassMode" members
    dlFreq1 := ← optionalField (readOption readF64) "DLFreq1" members
    dataRate1 := ← optionalField (readOption readU8) "DataRate1" members
    rxDelay1 := ← optionalField (readOption readU64) "RXDelay1" members
    dlFreq2 := ← optionalField (readOption readF64) "DLFreq2" members
    dataRate2 := ← optionalField (readOption readU8) "DataRate2" members }

def fromValue : Value → Outcome Error DLMetaData := readRecord fields build

end DLMetaData

namespace PRStartAnsResult

def fields : List (FieldReader Value) := [("ResultCode", check readString)]

def build (members : List (String × Value)) : Outcome Error PRStartAnsResult := do
  return { resultCode := ← field readString "ResultCode" members }

def fromValue : Value → Outcome Error PRStartAnsResult := readRecord fields build

end PRStartAnsResult

namespace Header

def fields : List (FieldReader Value) :=
  [("ProtocolVersion", check readString), ("SenderID", check readString),
    ("ReceiverID", check readString), ("TransactionID", check readU64),
    ("MessageType", check readString)]

def build (members : List (String × Value)) : Outcome Error Header := do
  return {
    protocolVersion := ← field readString "ProtocolVersion" members
    senderId := ← field readString "SenderID" members
    receiverId := ← field readString "ReceiverID" members
    transactionId := ← field readU64 "TransactionID" members
    messageType := ← field readString "MessageType" members }

end Header

namespace XmitDataReq

def fields : List (FieldReader Value) :=
  Header.fields ++
    [("PHYPayload", check readString), ("DLMetaData", check DLMetaData.fromValue)]

def build (members : List (String × Value)) : Outcome Error XmitDataReq := do
  return {
    ← Header.build members with
    phyPayload := ← field readString "PHYPayload" members
    dlMetaData := ← field DLMetaData.fromValue "DLMetaData" members }

def fromValue : Value → Outcome Error XmitDataReq := readRecord fields build

end XmitDataReq

namespace PRStartAns

def fields : List (FieldReader Value) :=
  Header.fields ++
    [("Result", check PRStartAnsResult.fromValue), ("PHYPayload", check readString),
      ("DLMetaData", check DLMetaData.fromValue)]

def build (members : List (String × Value)) : Outcome Error PRStartAns := do
  return {
    ← Header.build members with
    result := ← field PRStartAnsResult.fromValue "Result" members
    phyPayload := ← field readString "PHYPayload" members
    dlMetaData := ← field DLMetaData.fromValue "DLMetaData" members }

def fromValue : Value → Outcome Error PRStartAns := readRecord fields build

end PRStartAns

namespace PRStartAnsPlain

def fields : List (FieldReader Value) :=
  Header.fields ++ [("Result", check PRStartAnsResult.fromValue)]

def build (members : List (String × Value)) : Outcome Error PRStartAnsPlain := do
  return {
    ← Header.build members with
    result := ← field PRStartAnsResult.fromValue "Result" members }

def fromValue : Value → Outcome Error PRStartAnsPlain := readRecord fields build

end PRStartAnsPlain

/-- The text of a token is read exactly when it decodes. -/
theorem Token.fromValue_eq_ok {value : Value} {token : Token} :
    Token.fromValue value = .ok token ↔ ∃ text, value = .string text ∧ Decodes text token := by
  simp only [Token.fromValue, Outcome.bind_eq_ok, readString_eq_ok, Token.fromHex_eq_ok]

theorem Token.fromValue_panicked {value : Value} :
    (Token.fromValue value).Panicked ↔
      ∃ text, value = .string text ∧ ¬ ∃ token, Decodes text token := by
  simp only [Token.fromValue, Outcome.panicked_bind, not_panicked_readString, false_or,
    readString_eq_ok, Token.fromHex_panicked]

theorem DLMetaData.build_eq_ok {members : List (String × Value)} {m : DLMetaData} :
    DLMetaData.build members = .ok m ↔
      field readString "DevEUI" members = .ok m.devEui ∧
      field Token.fromValue "FNSULToken" members = .ok m.fnsUlToken ∧
      field (readUnitVariant ClassMode.ofName) "ClassMode" members = .ok m.classMode ∧
      optionalField (readOption readF64) "DLFreq1" members = .ok m.dlFreq1 ∧
      optionalField (readOption readU8) "DataRate1" members = .ok m.dataRate1 ∧
      optionalField (readOption readU64) "RXDelay1" members = .ok m.rxDelay1 ∧
      optionalField (readOption readF64) "DLFreq2" members = .ok m.dlFreq2 ∧
      optionalField (readOption readU8) "DataRate2" members = .ok m.dataRate2 := by
  obtain ⟨devEui, fnsUlToken, classMode, dlFreq1, dataRate1, rxDelay1, dlFreq2, dataRate2⟩ := m
  simp only [DLMetaData.build, Outcome.bind_eq_ok, Outcome.pure_eq, Outcome.ok.injEq,
    DLMetaData.mk.injEq]
  grind

theorem Header.build_eq_ok {members : List (String × Value)} {m : Header} :
    Header.build members = .ok m ↔
      field readString "ProtocolVersion" members = .ok m.protocolVersion ∧
      field readString "SenderID" members = .ok m.senderId ∧
      field readString "ReceiverID" members = .ok m.receiverId ∧
      field readU64 "TransactionID" members = .ok m.transactionId ∧
      field readString "MessageType" members = .ok m.messageType := by
  obtain ⟨protocolVersion, senderId, receiverId, transactionId, messageType⟩ := m
  simp only [Header.build, Outcome.bind_eq_ok, Outcome.pure_eq, Outcome.ok.injEq, Header.mk.injEq]
  grind

theorem XmitDataReq.build_eq_ok {members : List (String × Value)} {m : XmitDataReq} :
    XmitDataReq.build members = .ok m ↔
      Header.build members = .ok m.toHeader ∧
      field readString "PHYPayload" members = .ok m.phyPayload ∧
      field DLMetaData.fromValue "DLMetaData" members = .ok m.dlMetaData := by
  obtain ⟨header, phyPayload, dlMetaData⟩ := m
  simp only [XmitDataReq.build, Outcome.bind_eq_ok, Outcome.pure_eq, Outcome.ok.injEq,
    XmitDataReq.mk.injEq]
  grind

theorem PRStartAns.build_eq_ok {members : List (String × Value)} {m : PRStartAns} :
    PRStartAns.build members = .ok m ↔
      Header.build members = .ok m.toHeader ∧
      field PRStartAnsResult.fromValue "Result" members = .ok m.result ∧
      field readString "PHYPayload" members = .ok m.phyPayload ∧
      field DLMetaData.fromValue "DLMetaData" members = .ok m.dlMetaData := by
  obtain ⟨header, result, phyPayload, dlMetaData⟩ := m
  simp only [PRStartAns.build, Outcome.bind_eq_ok, Outcome.pure_eq, Outcome.ok.injEq,
    PRStartAns.mk.injEq]
  grind

theorem PRStartAnsPlain.build_eq_ok {members : List (String × Value)} {m : PRStartAnsPlain} :
    PRStartAnsPlain.build members = .ok m ↔
      Header.build members = .ok m.toHeader ∧
      field PRStartAnsResult.fromValue "Result" members = .ok m.result := by
  obtain ⟨header, result⟩ := m
  simp only [PRStartAnsPlain.build, Outcome.bind_eq_ok, Outcome.pure_eq, Outcome.ok.injEq,
    PRStartAnsPlain.mk.injEq]
  grind

section

variable {members : List (String × Value)} {name : String} {value : Value}
  {read : Value → Outcome Error Unit}

/-- All fields of a message are required, so building it reads what stands there. -/
theorem Header.read_of_build {header : Header} (h : Header.build members = .ok header)
    (hMem : (name, read) ∈ Header.fields) (hValue : members.lookup name = some value) :
    read value = .ok () := by
  obtain ⟨hVersion, hSender, hReceiver, hTransaction, hType⟩ := Header.build_eq_ok.mp h
  simp only [Header.fields, List.mem_cons, Prod.mk.injEq, List.not_mem_nil, or_false] at hMem
  obtain ⟨rfl, rfl⟩ | ⟨rfl, rfl⟩ | ⟨rfl, rfl⟩ | ⟨rfl, rfl⟩ | ⟨rfl, rfl⟩ := hMem
  · exact read_of_field hVersion hValue
  · exact read_of_field hSender hValue
  · exact read_of_field hReceiver hValue
  · exact read_of_field hTransaction hValue
  · exact read_of_field hType hValue

theorem XmitDataReq.read_of_build {m : XmitDataReq} (h : XmitDataReq.build members = .ok m)
    (hMem : (name, read) ∈ XmitDataReq.fields) (hValue : members.lookup name = some value) :
    read value = .ok () := by
  obtain ⟨hHeader, hPayload, hMeta⟩ := XmitDataReq.build_eq_ok.mp h
  simp only [XmitDataReq.fields, List.mem_append, List.mem_cons, Prod.mk.injEq, List.not_mem_nil,
    or_false] at hMem
  obtain hMem | ⟨rfl, rfl⟩ | ⟨rfl, rfl⟩ := hMem
  · exact Header.read_of_build hHeader hMem hValue
  · exact read_of_field hPayload hValue
  · exact read_of_field hMeta hValue

theorem PRStartAns.read_of_build {m : PRStartAns} (h : PRStartAns.build members = .ok m)
    (hMem : (name, read) ∈ PRStartAns.fields) (hValue : members.lookup name = some value) :
    read value = .ok () := by
  obtain ⟨hHeader, hResult, hPayload, hMeta⟩ := PRStartAns.build_eq_ok.mp h
  simp only [PRStartAns.fields, List.mem_append, List.mem_cons, Prod.mk.injEq, List.not_mem_nil,
    or_false] at hMem
  obtain hMem | ⟨rfl, rfl⟩ | ⟨rfl, rfl⟩ | ⟨rfl, rfl⟩ := hMem
  · exact Header.read_of_build hHeader hMem hValue
  · exact read_of_field hResult hValue
  · exact read_of_field hPayload hValue
  · exact read_of_field hMeta hValue

theorem PRStartAnsPlain.read_of_build {m : PRStartAnsPlain}
    (h : PRStartAnsPlain.build members = .ok m) (hMem : (name, read) ∈ PRStartAnsPlain.fields)
    (hValue : members.lookup name = some value) : read value = .ok () := by
  obtain ⟨hHeader, hResult⟩ := PRStartAnsPlain.build_eq_ok.mp h
  simp only [PRStartAnsPlain.fields, List.mem_append, List.mem_cons, Prod.mk.injEq,
    List.not_mem_nil, or_false] at hMem
  obtain hMem | ⟨rfl, rfl⟩ := hMem
  · exact Header.read_of_build hHeader hMem hValue
  · exact read_of_field hResult hValue

variable (hDistinct : (members.map Prod.fst).Nodup)
include hDistinct

theorem XmitDataReq.fromValue_object {m : XmitDataReq} :
    XmitDataReq.fromValue (.object members) = .ok m ↔ XmitDataReq.build members = .ok m :=
  readRecord_object hDistinct fun _ _ _ hBuild hValue hKnown =>
    read_of_build hBuild (mem_of_lookup hKnown) hValue

theorem PRStartAns.fromValue_object {m : PRStartAns} :
    PRStartAns.fromValue (.object members) = .ok m ↔ PRStartAns.build members = .ok m :=
  readRecord_object hDistinct fun _ _ _ hBuild hValue hKnown =>
    read_of_build hBuild (mem_of_lookup hKnown) hValue

theorem PRStartAnsPlain.fromValue_object {m : PRStartAnsPlain} :
    PRStartAnsPlain.fromValue (.object members) = .ok m ↔
      PRStartAnsPlain.build members = .ok m :=
  readRecord_object hDistinct fun _ _ _ hBuild hValue hKnown =>
    read_of_build hBuild (mem_of_lookup hKnown) hValue

end

/-- The reader of `DLMetaData` gets to this token text. -/
def DLMetaData.ReachesToken (value : Value) (text : String) : Prop :=
  ∃ members, value.members DLMetaData.fields = some members ∧
    Reaches DLMetaData.fields members "FNSULToken" (.string text)

theorem DLMetaData.not_panicked_build {members : List (String × Value)}
    (h : visitMembers DLMetaData.fields [] members = .ok ()) :
    ¬ (DLMetaData.build members).Panicked := by
  apply Outcome.not_panicked_bind (not_panicked_field h rfl); intro devEui
  apply Outcome.not_panicked_bind (not_panicked_field h rfl); intro token
  apply Outcome.not_panicked_bind (not_panicked_field h rfl); intro classMode
  apply Outcome.not_panicked_bind (not_panicked_optionalField h rfl); intro dlFreq1
  apply Outcome.not_panicked_bind (not_panicked_optionalField h rfl); intro dataRate1
  apply Outcome.not_panicked_bind (not_panicked_optionalField h rfl); intro rxDelay1
  apply Outcome.not_panicked_bind (not_panicked_optionalField h rfl); intro dlFreq2
  apply Outcome.not_panicked_bind (not_panicked_optionalField h rfl); intro dataRate2
  exact Outcome.panicked_ok _

/-- Reading `DLMetaData` panics exactly on a token text that it gets to and
that does not decode. -/
theorem DLMetaData.fromValue_panicked {value : Value} :
    (DLMetaData.fromValue value).Panicked ↔
      ∃ text, DLMetaData.ReachesToken value text ∧ ¬ ∃ token, Token.Decodes text token := by
  have hOther : ∀ other readOther, (other, readOther) ∈ DLMetaData.fields →
      other ≠ "FNSULToken" → ∀ content, ¬ (readOther content).Panicked := by
    intro other readOther hMem hName content
    simp only [DLMetaData.fields, List.mem_cons, Prod.mk.injEq, hName, false_and, false_or,
      List.not_mem_nil, or_false] at hMem
    obtain ⟨-, rfl⟩ | ⟨-, rfl⟩ | ⟨-, rfl⟩ | ⟨-, rfl⟩ | ⟨-, rfl⟩ | ⟨-, rfl⟩ | ⟨-, rfl⟩ := hMem <;>
      simp [not_panicked_readOption]
  rw [DLMetaData.fromValue, readRecord_panicked_at (fun _ => DLMetaData.not_panicked_build) rfl
    hOther]
  constructor
  · rintro ⟨members, content, hMembers, hReach, hPanic⟩
    obtain ⟨text, rfl, hText⟩ := Token.fromValue_panicked.mp hPanic
    exact ⟨text, ⟨members, hMembers, hReach⟩, hText⟩
  · rintro ⟨text, ⟨members, hMembers, hReach⟩, hText⟩
    exact ⟨members, .string text, hMembers, hReach, Token.fromValue_panicked.mpr ⟨text, rfl, hText⟩⟩

theorem PRStartAnsResult.not_panicked_fromValue {value : Value} :
    ¬ (PRStartAnsResult.fromValue value).Panicked := by
  apply not_panicked_readRecord
  · intro members hVisit
    exact Outcome.not_panicked_bind (not_panicked_field hVisit rfl) fun _ => Outcome.panicked_ok _
  · intro name read hMem content
    obtain ⟨-, rfl⟩ : name = "ResultCode" ∧ read = check readString := by
      simpa [PRStartAnsResult.fields] using hMem
    simp

section

variable {more : List (FieldReader Value)} {members : List (String × Value)} {value : Value}

theorem Header.not_panicked_build
    (h : visitMembers (Header.fields ++ more) [] members = .ok ()) :
    ¬ (Header.build members).Panicked := by
  apply Outcome.not_panicked_bind (not_panicked_field h rfl); intro protocolVersion
  apply Outcome.not_panicked_bind (not_panicked_field h rfl); intro senderId
  apply Outcome.not_panicked_bind (not_panicked_field h rfl); intro receiverId
  apply Outcome.not_panicked_bind (not_panicked_field h rfl); intro transactionId
  apply Outcome.not_panicked_bind (not_panicked_field h rfl); intro messageType
  exact Outcome.panicked_ok _

theorem Header.not_panicked_read {name : String} {read : Value → Outcome Error Unit}
    (h : (name, read) ∈ Header.fields) (content : Value) : ¬ (read content).Panicked := by
  simp only [Header.fields, List.mem_cons, Prod.mk.injEq, List.not_mem_nil, or_false] at h
  obtain ⟨-, rfl⟩ | ⟨-, rfl⟩ | ⟨-, rfl⟩ | ⟨-, rfl⟩ | ⟨-, rfl⟩ := h <;> simp

/-- The reader of a message gets to this token text. -/
def ReachesToken (fields : List (FieldReader Value)) (value : Value) (text : String) : Prop :=
  ∃ members metaData, value.members fields = some members ∧
    Reaches fields members "DLMetaData" metaData ∧ DLMetaData.ReachesToken metaData text

/-- Reading a message with `DLMetaData` panics only there. -/
theorem message_panicked {α : Type} {fields : List (FieldReader Value)}
    {build : List (String × Value) → Outcome Error α}
    (hBuild : ∀ members, visitMembers fields [] members = .ok () → ¬ (build members).Panicked)
    (hKnown : fields.lookup "DLMetaData" = some (check DLMetaData.fromValue))
    (hOther : ∀ other readOther, (other, readOther) ∈ fields → other ≠ "DLMetaData" →
      ∀ content, ¬ (readOther content).Panicked) :
    (readRecord fields build value).Panicked ↔
      ∃ text, ReachesToken fields value text ∧ ¬ ∃ token, Token.Decodes text token := by
  rw [readRecord_panicked_at hBuild hKnown hOther]
  constructor
  · rintro ⟨members, metaData, hMembers, hReach, hPanic⟩
    obtain ⟨text, hText, hToken⟩ := DLMetaData.fromValue_panicked.mp hPanic
    exact ⟨text, ⟨members, metaData, hMembers, hReach, hText⟩, hToken⟩
  · rintro ⟨text, ⟨members, metaData, hMembers, hReach, hText⟩, hToken⟩
    exact ⟨members, metaData, hMembers, hReach, DLMetaData.fromValue_panicked.mpr ⟨text, hText, hToken⟩⟩

theorem XmitDataReq.fromValue_panicked :
    (XmitDataReq.fromValue value).Panicked ↔
      ∃ text, ReachesToken XmitDataReq.fields value text ∧ ¬ ∃ token, Token.Decodes text token := by
  apply message_panicked
  · intro members h
    apply Outcome.not_panicked_bind (Header.not_panicked_build h); intro header
    apply Outcome.not_panicked_bind (not_panicked_field h rfl); intro phyPayload
    apply Outcome.not_panicked_bind (not_panicked_field h rfl); intro dlMetaData
    exact Outcome.panicked_ok _
  · rfl
  · intro other readOther hMem hName content
    rcases List.mem_append.mp hMem with hHeader | hOwn
    · exact Header.not_panicked_read hHeader content
    · simp only [List.mem_cons, Prod.mk.injEq, hName, false_and, List.not_mem_nil,
        or_false] at hOwn
      obtain ⟨-, rfl⟩ := hOwn
      simp

theorem PRStartAns.fromValue_panicked :
    (PRStartAns.fromValue value).Panicked ↔
      ∃ text, ReachesToken PRStartAns.fields value text ∧ ¬ ∃ token, Token.Decodes text token := by
  apply message_panicked
  · intro members h
    apply Outcome.not_panicked_bind (Header.not_panicked_build h); intro header
    apply Outcome.not_panicked_bind (not_panicked_field h rfl); intro result
    apply Outcome.not_panicked_bind (not_panicked_field h rfl); intro phyPayload
    apply Outcome.not_panicked_bind (not_panicked_field h rfl); intro dlMetaData
    exact Outcome.panicked_ok _
  · rfl
  · intro other readOther hMem hName content
    rcases List.mem_append.mp hMem with hHeader | hOwn
    · exact Header.not_panicked_read hHeader content
    · simp only [List.mem_cons, Prod.mk.injEq, hName, false_and, List.not_mem_nil,
        or_false] at hOwn
      obtain ⟨-, rfl⟩ | ⟨-, rfl⟩ := hOwn
      · simp [PRStartAnsResult.not_panicked_fromValue]
      · simp

theorem PRStartAnsPlain.not_panicked_fromValue : ¬ (PRStartAnsPlain.fromValue value).Panicked := by
  apply not_panicked_readRecord
  · intro members h
    apply Outcome.not_panicked_bind (Header.not_panicked_build h); intro header
    apply Outcome.not_panicked_bind (not_panicked_field h rfl); intro result
    exact Outcome.panicked_ok _
  · intro name read hMem content
    rcases List.mem_append.mp hMem with hHeader | hOwn
    · exact Header.not_panicked_read hHeader content
    · obtain ⟨-, rfl⟩ : name = "Result" ∧ read = check PRStartAnsResult.fromValue := by
        simpa using hOwn
      simp [PRStartAnsResult.not_panicked_fromValue]

end

def sampleMetaData (classMode token : String) : Value :=
  .object [("ClassMode", .string classMode), ("DevEUI", .string "0000000000000003"),
    ("FNSULToken", .string token)]

/-- A message whose result is a list of members, since it may be missing. -/
def sampleMessage (messageType : String) (result : List (String × Value))
    (phyPayload : String) (metaData : Value) : Value :=
  .object ([("DLMetaData", metaData), ("MessageType", .string messageType),
    ("PHYPayload", .string phyPayload), ("ProtocolVersion", .string "1.1"),
    ("ReceiverID", .string "c00053")] ++ result ++ [("SenderID", .string "000024"),
    ("TransactionID", .number (.posInt 274631693))])

/-- A result with this code, as a member of a message. -/
def sampleResult (code : String) : List (String × Value) :=
  [("Result", .object [("ResultCode", .string code)])]

/-- The sample metadata is read with whatever token its text decodes as. -/
theorem fromValue_sampleMetaData {text : String} {token : Token} (h : Token.Decodes text token) :
    DLMetaData.fromValue (sampleMetaData "A" text) =
      .ok ⟨"0000000000000003", token, .a, none, none, none, none, none⟩ := by
  have hToken : Token.fromValue (.string text) = .ok token :=
    Token.fromValue_eq_ok.mpr ⟨text, rfl, h⟩
  simp [sampleMetaData, DLMetaData.fromValue, readRecord, members, fits, visitMembers,
    DLMetaData.fields, DLMetaData.build, field, optionalField, List.lookup_cons, check, hToken,
    readString, readUnitVariant, ClassMode.ofName]

/-- Metadata with the parts of both windows. -/
def sampleWindows (classMode token : String) : Value :=
  .object [("ClassMode", .string classMode), ("DLFreq1", .number (.float 925.1)),
    ("DLFreq2", .number (.float 923.3)), ("DataRate1", .number (.posInt 10)),
    ("DataRate2", .number (.posInt 8)), ("DevEUI", .string "0000000000000003"),
    ("FNSULToken", .string token), ("RXDelay1", .number (.posInt 1))]

theorem fromValue_sampleWindows {text : String} {token : Token} (h : Token.Decodes text token) :
    DLMetaData.fromValue (sampleWindows "A" text) =
      .ok ⟨"0000000000000003", token, .a, some 925.1, some 10, some 1, some 923.3, some 8⟩ := by
  have hToken : Token.fromValue (.string text) = .ok token :=
    Token.fromValue_eq_ok.mpr ⟨text, rfl, h⟩
  simp [sampleWindows, DLMetaData.fromValue, readRecord, members, fits, visitMembers,
    DLMetaData.fields, DLMetaData.build, field, optionalField, List.lookup_cons, check, hToken,
    readString, readUnitVariant, ClassMode.ofName, readOption, readF64, readU64, readU8]

/-- A sample message with a result is an answer, whatever its type and code. -/
theorem fromValue_sampleMessage {messageType code phyPayload : String} {metaData : Value}
    {m : DLMetaData} (h : DLMetaData.fromValue metaData = .ok m) :
    PRStartAns.fromValue (sampleMessage messageType (sampleResult code) phyPayload metaData) =
      .ok ⟨⟨"1.1", "000024", "c00053", 274631693, messageType⟩, ⟨code⟩, phyPayload, m⟩ := by
  rw [sampleMessage, PRStartAns.fromValue_object (by simp [sampleResult]), PRStartAns.build_eq_ok,
    Header.build_eq_ok]
  simp [sampleResult, field, List.lookup_cons, readString, readU64, PRStartAnsResult.fromValue,
    readRecord, members, fits, PRStartAnsResult.fields, PRStartAnsResult.build, visitMembers, check,
    h]

end PacketRouter.HttpRoaming
