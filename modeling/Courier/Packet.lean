import Courier.Message

/-!
# Packets, their routes and transport errors

What a broker sends, what becomes of each packet, and the errors of the transport that carries them.
-/

namespace Courier

/-- A broker's answer to a request to connect. -/
inductive ConnectCode where
  | success
  | refusedProtocolVersion
  | badClientId
  | serviceUnavailable
  | unspecifiedError
  | malformedPacket
  | protocolError
  | implementationSpecificError
  | unsupportedProtocolVersion
  | clientIdentifierNotValid
  | badUserNamePassword
  | notAuthorized
  | serverUnavailable
  | serverBusy
  | banned
  | badAuthenticationMethod
  | topicNameInvalid
  | packetTooLarge
  | quotaExceeded
  | payloadFormatInvalid
  | retainNotSupported
  | qosNotSupported
  | useAnotherServer
  | serverMoved
  | connectionRateExceeded
  deriving DecidableEq, Repr

namespace ConnectCode

/-- The codes with their bytes and names; three of an older version of the protocol have no byte. -/
def all : List (ConnectCode × Option Nat × String) :=
  [(.success, some 0, "Success"),
   (.refusedProtocolVersion, none, "RefusedProtocolVersion"),
   (.badClientId, none, "BadClientId"),
   (.serviceUnavailable, none, "ServiceUnavailable"),
   (.unspecifiedError, some 128, "UnspecifiedError"),
   (.malformedPacket, some 129, "MalformedPacket"),
   (.protocolError, some 130, "ProtocolError"),
   (.implementationSpecificError, some 131, "ImplementationSpecificError"),
   (.unsupportedProtocolVersion, some 132, "UnsupportedProtocolVersion"),
   (.clientIdentifierNotValid, some 133, "ClientIdentifierNotValid"),
   (.badUserNamePassword, some 134, "BadUserNamePassword"),
   (.notAuthorized, some 135, "NotAuthorized"),
   (.serverUnavailable, some 136, "ServerUnavailable"),
   (.serverBusy, some 137, "ServerBusy"),
   (.banned, some 138, "Banned"),
   (.badAuthenticationMethod, some 140, "BadAuthenticationMethod"),
   (.topicNameInvalid, some 144, "TopicNameInvalid"),
   (.packetTooLarge, some 149, "PacketTooLarge"),
   (.quotaExceeded, some 151, "QuotaExceeded"),
   (.payloadFormatInvalid, some 153, "PayloadFormatInvalid"),
   (.retainNotSupported, some 154, "RetainNotSupported"),
   (.qosNotSupported, some 155, "QoSNotSupported"),
   (.useAnotherServer, some 156, "UseAnotherServer"),
   (.serverMoved, some 157, "ServerMoved"),
   (.connectionRateExceeded, some 159, "ConnectionRateExceeded")]

def name (c : ConnectCode) : String := ((all.lookup c).map (·.2)).getD ""

def ofName? (name : String) : Option ConnectCode := (all.find? (·.2.2 = name)).map (·.1)

/-- The code that a byte stands for; other bytes make the packet undecodable. -/
def ofByte? (b : Nat) : Option ConnectCode := (all.find? (·.2.1 = some b)).map (·.1)

end ConnectCode

/-- Why a broker ends a session. -/
inductive DisconnectReason where
  | normalDisconnection
  | disconnectWithWillMessage
  | unspecifiedError
  | malformedPacket
  | protocolError
  | implementationSpecificError
  | notAuthorized
  | serverBusy
  | serverShuttingDown
  | keepAliveTimeout
  | sessionTakenOver
  | topicFilterInvalid
  | topicNameInvalid
  | receiveMaximumExceeded
  | topicAliasInvalid
  | packetTooLarge
  | messageRateTooHigh
  | quotaExceeded
  | administrativeAction
  | payloadFormatInvalid
  | retainNotSupported
  | qosNotSupported
  | useAnotherServer
  | serverMoved
  | sharedSubscriptionNotSupported
  | connectionRateExceeded
  | maximumConnectTime
  | subscriptionIdentifiersNotSupported
  | wildcardSubscriptionsNotSupported
  deriving DecidableEq, Repr

namespace DisconnectReason

def all : List (DisconnectReason × Nat × String) :=
  [(.normalDisconnection, 0, "NormalDisconnection"),
   (.disconnectWithWillMessage, 4, "DisconnectWithWillMessage"),
   (.unspecifiedError, 128, "UnspecifiedError"),
   (.malformedPacket, 129, "MalformedPacket"),
   (.protocolError, 130, "ProtocolError"),
   (.implementationSpecificError, 131, "ImplementationSpecificError"),
   (.notAuthorized, 135, "NotAuthorized"),
   (.serverBusy, 137, "ServerBusy"),
   (.serverShuttingDown, 139, "ServerShuttingDown"),
   (.keepAliveTimeout, 141, "KeepAliveTimeout"),
   (.sessionTakenOver, 142, "SessionTakenOver"),
   (.topicFilterInvalid, 143, "TopicFilterInvalid"),
   (.topicNameInvalid, 144, "TopicNameInvalid"),
   (.receiveMaximumExceeded, 147, "ReceiveMaximumExceeded"),
   (.topicAliasInvalid, 148, "TopicAliasInvalid"),
   (.packetTooLarge, 149, "PacketTooLarge"),
   (.messageRateTooHigh, 150, "MessageRateTooHigh"),
   (.quotaExceeded, 151, "QuotaExceeded"),
   (.administrativeAction, 152, "AdministrativeAction"),
   (.payloadFormatInvalid, 153, "PayloadFormatInvalid"),
   (.retainNotSupported, 154, "RetainNotSupported"),
   (.qosNotSupported, 155, "QoSNotSupported"),
   (.useAnotherServer, 156, "UseAnotherServer"),
   (.serverMoved, 157, "ServerMoved"),
   (.sharedSubscriptionNotSupported, 158, "SharedSubscriptionNotSupported"),
   (.connectionRateExceeded, 159, "ConnectionRateExceeded"),
   (.maximumConnectTime, 160, "MaximumConnectTime"),
   (.subscriptionIdentifiersNotSupported, 161, "SubscriptionIdentifiersNotSupported"),
   (.wildcardSubscriptionsNotSupported, 162, "WildcardSubscriptionsNotSupported")]

def name (r : DisconnectReason) : String := ((all.lookup r).map (·.2)).getD ""

def ofByte? (b : Nat) : Option DisconnectReason := (all.find? (·.2.1 = b)).map (·.1)

end DisconnectReason

/-- What became of one filter of a request to subscribe. -/
inductive SubscribeVerdict where
  | granted (guarantee : Guarantee)
  | refused (name : String)
  deriving DecidableEq, Repr

def SubscribeVerdict.text : SubscribeVerdict → String
  | .granted guarantee => s!"Success({guarantee.name})"
  | .refused name => name

/-- The packets that acknowledge a step of a publication. -/
inductive PublishStep where
  | ack
  | received
  | release
  | complete
  deriving DecidableEq, Repr

def PublishStep.name : PublishStep → String
  | .ack => "PubAck"
  | .received => "PubRec"
  | .release => "PubRel"
  | .complete => "PubComp"

inductive Packet where
  | connAck (sessionPresent : Bool) (code : ConnectCode)
  | publish (topic payload : List UInt8) (retain : Bool)
  | disconnect (reason : DisconnectReason)
  | subAck (packetId : UInt16) (verdicts : List SubscribeVerdict)
  | unsubAck (packetId : UInt16)
  | publishStep (step : PublishStep) (packetId : UInt16)
  | pingRequest
  | pingResponse
  deriving DecidableEq, Repr

/-- What a poll of the transport reports. -/
inductive Event where
  | incoming (p : Packet)
  /-- A request of the client has been sent. -/
  | outgoing
  deriving DecidableEq, Repr

/-- What becomes of an event. -/
inductive Route where
  | acknowledged (success : Bool) (code : ConnectCode)
  | message (topic : String) (payload : List UInt8) (retain : Bool)
  | ended (reason : DisconnectReason)
  | subscribed (packetId : UInt16) (verdicts : List SubscribeVerdict)
  | routine (text : String)
  | sent
  deriving DecidableEq, Repr

def Event.route : Event → Route
  | .incoming (.connAck _ code) => .acknowledged (code = .success) code
  | .incoming (.publish topic payload retain) => .message (Utf8.lossy topic) payload retain
  | .incoming (.disconnect reason) => .ended reason
  | .incoming (.subAck packetId verdicts) => .subscribed packetId verdicts
  | .incoming (.unsubAck packetId) =>
    .routine ("UnsubAck(UnsubAck \x7b pkid: " ++ packetId.toNat.repr
      ++ ", reasons: [Success], properties: None \x7d)")
  | .incoming (.publishStep step packetId) =>
    .routine (step.name ++ "(" ++ step.name ++ " \x7b pkid: " ++ packetId.toNat.repr
      ++ ", reason: Success, properties: None \x7d)")
  | .incoming .pingRequest => .routine "PingReq(PingReq)"
  | .incoming .pingResponse => .routine "PingResp(PingResp)"
  | .outgoing => .sent

/-- Why the transport failed. -/
inductive TransportError where
  | refused (code : ConnectCode)
  | io (message : String)
  /-- The first packet of the broker was no answer to the request to connect. -/
  | noConnAck
  | invalidState
  | unsolicitedAck (packetId : UInt16)
  | connectionFailed (code : ConnectCode)
  /-- The broker would not take a subscription. -/
  | subscriptionFailed (name : String)
  | requestsDone
  deriving DecidableEq, Repr

def TransportError.text : TransportError → String
  | .refused code => s!"Connection refused, return code: `{code.name}`"
  | .io message => s!"I/O: {message}"
  | .noConnAck => "Expected ConnAck packet, received: PingResp(PingResp)"
  | .invalidState => "Mqtt state: Invalid state for a given operation"
  | .unsolicitedAck packetId => s!"Mqtt state: Received unsolicited ack pkid: {packetId}"
  | .connectionFailed code => s!"Mqtt state: Connection failed with reason '{code.name}' "
  | .subscriptionFailed name => s!"Mqtt state: Subscribe failed with reason '{name}' "
  | .requestsDone => "Requests done"

/-- A refusal is final; any other failure to connect is worth another attempt. -/
def TransportError.isFatal : TransportError → Bool
  | .refused _ => true
  | _ => false

end Courier
