import PacketRouterIngest.Text.JsonDocument
import PacketRouterIngest.HttpRoaming.Responses

/-! The bodies that are posted to the network server, as JSON text. The text
tells every two bodies apart, and carries the token of a request unchanged. -/
namespace PacketRouter.HttpRoaming

open Json

/-- Texts of the finite floating-point numbers, in single and in double
precision. Nothing is assumed of them but that they are numbers. -/
structure FloatTexts where
  f64 : Float → NumberText
  f32 : Float32 → NumberText

variable (texts : FloatTexts)

/-- Infinities and what is not a number are written as `null`. -/
def serializeF64 (x : Float) : Document := if x.isFinite then .number (texts.f64 x) else .null

def serializeF32 (x : Float32) : Document := if x.isFinite then .number (texts.f32 x) else .null

def serializeOption {α : Type} (serialize : α → Document) : Option α → Document
  | some a => serialize a
  | none => .null

def GWInfo.serialize (info : GWInfo) : Document :=
  .object [("ID", .string info.id.text), ("RFRegion", .string info.region.name),
    ("RSSI", .number (.ofInt info.rssi.toInt)), ("SNR", serializeF32 texts info.snr),
    ("DLAllowed", .bool info.dlAllowed)]

def ULMetaData.serialize (metaData : ULMetaData) : Document :=
  .object [("DevAddr", serializeOption (fun addr => .string addr.text) metaData.devaddr),
    ("DevEUI", serializeOption (fun eui => .string eui.text) metaData.devEui),
    ("DataRate", .number (.ofNat metaData.dataRate.toNat)),
    ("ULFreq", serializeF64 texts metaData.ulFreq), ("RecvTime", .string metaData.recvTime),
    ("RFRegion", .string metaData.rfRegion.name), ("FNSULToken", .string metaData.fnsUlToken),
    ("GWCnt", .number (.ofNat metaData.gwCnt)),
    ("GWInfo", .array (metaData.gwInfo.map (GWInfo.serialize texts)))]

/-- `#[serde(tag = "MessageType")]`: the tag is the first member. -/
def PRStartReq.serialize (request : PRStartReq) : Document :=
  .object [("MessageType", .string "PRStartReq"),
    ("ProtocolVersion", .string request.protocolVersion),
    ("SenderNSID", .string request.senderNsid), ("ReceiverNSID", .string request.receiverNsid),
    ("DedupWindowSize", .string request.dedupWindowSize), ("SenderID", .string request.senderId),
    ("ReceiverID", .string request.receiverId), ("PHYPayload", .string request.phyPayload),
    ("ULMetaData", request.ulMetaData.serialize texts)]

def HttpResponseResult.name : HttpResponseResult → String
  | .success => "Success"
  | .micFailed => "MICFailed"
  | .xmitFailed => "XmitFailed"

/-- `#[serde(tag = "ResultCode")]`. -/
def HttpResponseResult.serialize (result : HttpResponseResult) : Document :=
  .object [("ResultCode", .string result.name)]

def HttpResponse.serialize (response : HttpResponse) : Document :=
  .object [("ProtocolVersion", .string response.protocolVersion),
    ("MessageType", .string response.messageType.name), ("SenderID", .string response.senderId),
    ("ReceiverID", .string response.receiverId),
    ("TransactionID", .number (.ofNat response.transactionId.toNat)),
    ("SenderNSID", .string response.senderNsid), ("ReceiverNSID", .string response.receiverNsid),
    ("Result", response.result.serialize)]

def Body.serialize : Body → Document
  | .prStartReq request => request.serialize texts
  | .httpResponse response => response.serialize

/-- `serde_json::to_string`, as bytes. -/
def Body.toJson (body : Body) : List UInt8 := (body.serialize texts).write

/-- The entries of two copies, up to how their SNR is written. -/
structure GWInfo.Alike (info info' : GWInfo) : Prop where
  id : info.id = info'.id
  region : info.region = info'.region
  rssi : info.rssi = info'.rssi
  snr : serializeF32 texts info.snr = serializeF32 texts info'.snr
  dlAllowed : info.dlAllowed = info'.dlAllowed

/-- Equal metadata, up to how floating-point numbers are written. -/
structure ULMetaData.Alike (m m' : ULMetaData) : Prop where
  devaddr : m.devaddr = m'.devaddr
  devEui : m.devEui = m'.devEui
  dataRate : m.dataRate = m'.dataRate
  ulFreq : serializeF64 texts m.ulFreq = serializeF64 texts m'.ulFreq
  recvTime : m.recvTime = m'.recvTime
  rfRegion : m.rfRegion = m'.rfRegion
  fnsUlToken : m.fnsUlToken = m'.fnsUlToken
  gwCnt : m.gwCnt = m'.gwCnt
  gwInfo : List.Forall₂ (GWInfo.Alike texts) m.gwInfo m'.gwInfo

/-- Equal bodies, up to how floating-point numbers are written. -/
def Body.Alike : Body → Body → Prop
  | .prStartReq r, .prStartReq r' =>
      { r with ulMetaData := r'.ulMetaData } = r' ∧ r.ulMetaData.Alike texts r'.ulMetaData
  | .httpResponse r, .httpResponse r' => r = r'
  | _, _ => False

theorem HttpResponseMessageType.name_injective {t t' : HttpResponseMessageType}
    (h : t.name = t'.name) : t = t' := by
  cases t <;> cases t' <;> first | rfl | exact absurd h (by decide)

theorem HttpResponseResult.name_injective {r r' : HttpResponseResult} (h : r.name = r'.name) :
    r = r' := by
  cases r <;> cases r' <;> first | rfl | exact absurd h (by decide)

theorem serializeOption_injective {α : Type} {serialize : α → Document}
    (hInjective : ∀ a b, serialize a = serialize b → a = b) (hNull : ∀ a, serialize a ≠ .null)
    {o o' : Option α} (h : serializeOption serialize o = serializeOption serialize o') : o = o' := by
  cases o with
  | none =>
      cases o' with
      | none => rfl
      | some b => exact absurd h.symm (hNull b)
  | some a =>
      cases o' with
      | none => exact absurd h (hNull a)
      | some b => rw [hInjective a b h]

variable {texts}

theorem GWInfo.serialize_eq_iff {info info' : GWInfo} :
    info.serialize texts = info'.serialize texts ↔ info.Alike texts info' := by
  constructor
  · intro h
    simp only [serialize, Document.object.injEq, List.cons.injEq, Prod.mk.injEq, true_and,
      Document.string.injEq, Document.number.injEq, Document.bool.injEq, and_true] at h
    obtain ⟨hId, hRegion, hRssi, hSnr, hAllowed⟩ := h
    exact ⟨congrArg GatewayMac.mk hId, Region.name_injective hRegion, Int32.toInt_inj.mp (NumberText.ofInt_injective hRssi),
      hSnr, hAllowed⟩
  · rintro ⟨hId, hRegion, hRssi, hSnr, hAllowed⟩
    rw [serialize, serialize, hId, hRegion, hRssi, hSnr, hAllowed]

/-- The entries of all copies are written one after the other. -/
theorem map_serialize_eq_iff {infos infos' : List GWInfo} :
    infos.map (GWInfo.serialize texts) = infos'.map (GWInfo.serialize texts) ↔
      List.Forall₂ (GWInfo.Alike texts) infos infos' := by
  rw [← List.forall₂_eq_eq_eq, List.forall₂_map_left_iff, List.forall₂_map_right_iff]
  simp only [GWInfo.serialize_eq_iff]

theorem ULMetaData.serialize_eq_iff {m m' : ULMetaData} :
    m.serialize texts = m'.serialize texts ↔ m.Alike texts m' := by
  constructor
  · intro h
    simp only [serialize, Document.object.injEq, List.cons.injEq, Prod.mk.injEq, true_and,
      Document.string.injEq, Document.number.injEq, Document.array.injEq, and_true] at h
    obtain ⟨hAddr, hEui, hRate, hFreq, hTime, hRegion, hToken, hCount, hInfos⟩ := h
    refine ⟨serializeOption_injective ?_ (by simp) hAddr,
      serializeOption_injective ?_ (by simp) hEui,
      UInt8.toNat_inj.mp (NumberText.ofNat_injective hRate), hFreq, hTime,
      Region.name_injective hRegion, hToken, NumberText.ofNat_injective hCount,
      map_serialize_eq_iff.mp hInfos⟩
    · rintro ⟨a⟩ ⟨b⟩ hText
      simpa using hText
    · rintro ⟨a⟩ ⟨b⟩ hText
      simpa using hText
  · rintro ⟨hAddr, hEui, hRate, hFreq, hTime, hRegion, hToken, hCount, hInfos⟩
    rw [serialize, serialize, hAddr, hEui, hRate, hFreq, hTime, hRegion, hToken, hCount,
      map_serialize_eq_iff.mpr hInfos]

theorem PRStartReq.serialize_eq_iff {r r' : PRStartReq} :
    r.serialize texts = r'.serialize texts ↔
      { r with ulMetaData := r'.ulMetaData } = r' ∧ r.ulMetaData.Alike texts r'.ulMetaData := by
  obtain ⟨version, sender, receiver, window, senderId, receiverId, payload, metaData⟩ := r
  obtain ⟨version', sender', receiver', window', senderId', receiverId', payload', metaData'⟩ := r'
  simp only [serialize, Document.object.injEq, List.cons.injEq, Prod.mk.injEq, true_and,
    Document.string.injEq, and_true, PRStartReq.mk.injEq, ULMetaData.serialize_eq_iff]
  grind

theorem HttpResponse.serialize_injective {r r' : HttpResponse} (h : r.serialize = r'.serialize) :
    r = r' := by
  obtain ⟨version, type, sender, receiver, transaction, senderNsid, receiverNsid, result⟩ := r
  obtain ⟨version', type', sender', receiver', transaction', senderNsid', receiverNsid', result'⟩ := r'
  simp only [serialize, HttpResponseResult.serialize, Document.object.injEq, List.cons.injEq,
    Prod.mk.injEq, true_and, Document.string.injEq, Document.number.injEq, and_true] at h
  obtain ⟨rfl, hType, rfl, rfl, hTransaction, rfl, rfl, hResult⟩ := h
  rw [HttpResponseMessageType.name_injective hType, HttpResponseResult.name_injective hResult,
    UInt64.toNat_inj.mp (NumberText.ofNat_injective hTransaction)]

/-- **Texts tell bodies apart.** Two bodies are posted as one text exactly if
they are equal up to how their floating-point numbers are written: no text of a
request is that of a response, and no character of a name, of a token or of a
payload is mistaken for one between them. -/
theorem Body.toJson_eq_iff (texts : FloatTexts) (body body' : Body) :
    body.toJson texts = body'.toJson texts ↔ body.Alike texts body' := by
  have hText : body.toJson texts = body'.toJson texts ↔
      body.serialize texts = body'.serialize texts :=
    ⟨write_injective _ _, fun h => by rw [toJson, toJson, h]⟩
  rw [hText]
  cases body with
  | prStartReq request =>
      cases body' with
      | prStartReq request' => exact PRStartReq.serialize_eq_iff
      | httpResponse response =>
          simp [serialize, PRStartReq.serialize, HttpResponse.serialize, Alike]
  | httpResponse response =>
      cases body' with
      | prStartReq request =>
          simp [serialize, PRStartReq.serialize, HttpResponse.serialize, Alike]
      | httpResponse response' =>
          refine ⟨HttpResponse.serialize_injective, fun h => ?_⟩
          cases h
          rfl

/-- The token in the text of a request. -/
def tokenOf (bytes : List UInt8) : Option String := do
  let value ← parse bytes
  let metaData ← value.member "ULMetaData"
  let token ← metaData.member "FNSULToken"
  token.text

theorem tokenOf_prStartReq (texts : FloatTexts) (request : PRStartReq) :
    tokenOf ((Body.prStartReq request).toJson texts) = some request.ulMetaData.fnsUlToken := by
  rw [tokenOf, Body.toJson, parse_write]
  simp [Body.serialize, PRStartReq.serialize, ULMetaData.serialize, Document.toSyntax,
    membersSyntax, Syntax.member, Syntax.text, List.lookup_cons]

theorem tokenOf_httpResponse (texts : FloatTexts) (response : HttpResponse) :
    tokenOf ((Body.httpResponse response).toJson texts) = none := by
  rw [tokenOf, Body.toJson, parse_write]
  simp [Body.serialize, HttpResponse.serialize, Document.toSyntax, membersSyntax, Syntax.member,
    List.lookup_cons]

end PacketRouter.HttpRoaming
