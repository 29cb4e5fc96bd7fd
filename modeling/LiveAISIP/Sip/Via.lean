import LiveAISIP.Library.Quoted
import LiveAISIP.Net.Address
import LiveAISIP.Sip.Auth
import LiveAISIP.Sip.UriParser

/-!
# The Via header

The field value of `sip/headers/via.rs`: its types, the checks of its constructors,
its text and its parser with the budgets of the enclosing message.
-/

namespace LiveAISIP
namespace Sip
namespace Headers

open Ascii Outcome Quoted Text

/-- Maximum accepted size of a Via field value. -/
def maxViaBytes : Nat := 8 * 1024

/-- Maximum number of entries of one Via field. -/
def maxViaEntries : Nat := 64

/-- Maximum number of parameters of one entry. -/
def maxViaParameters : Nat := 64

/-- Maximum accepted size of a sent-protocol token. -/
def maxViaProtocolTokenBytes : Nat := 64

/-- Maximum accepted size of a branch. -/
def maxViaBranchBytes : Nat := 256

/-- Maximum accepted size of the name of an extension parameter. -/
def maxViaParameterNameBytes : Nat := 256

/-- Maximum accepted size of the value of an extension parameter. -/
def maxViaParameterValueBytes : Nat := 1024

/-- Failure to parse or construct a Via value. -/
inductive ViaParseError
  | empty
  | tooLong (length maximum : Nat)
  | emptyEntry
  | tooManyEntries (maximum : Nat)
  | missingSentProtocol
  | invalidSentProtocol
  | emptyProtocolName
  | emptyProtocolVersion
  | emptyTransport
  | protocolTokenTooLong (length maximum : Nat)
  | invalidProtocolName (index : Nat) (byte : UInt8)
  | invalidProtocolVersion (index : Nat) (byte : UInt8)
  | invalidTransport (index : Nat) (byte : UInt8)
  | missingSentBy
  | invalidSentByHost
  | invalidPort
  | portOutOfRange
  | invalidQuotedString
  | unexpectedTrailingData
  | emptyParameter
  | invalidParameterName (index : Nat) (byte : UInt8)
  | parameterNameTooLong (length maximum : Nat)
  | reservedParameterName
  | invalidParameterSeparator (byte : UInt8)
  | missingParameterValue
  | invalidBranch (index : Nat) (byte : UInt8)
  | branchTooLong (length maximum : Nat)
  | invalidReceived
  | invalidRPort
  | invalidMaddr
  | invalidTtl
  | invalidExtensionValue (index : Nat) (byte : UInt8)
  | parameterValueTooLong (length maximum : Nat)
  | duplicateParameter
  | tooManyParameters (maximum : Nat)
  deriving DecidableEq

/-- A nonempty token of bounded size; the errors say what is wrong with it. -/
def validateToken
    (input : Bytes) (maximum : Nat) (missing : ViaParseError) (tooLong : Nat → Nat → ViaParseError)
    (invalid : Nat → UInt8 → ViaParseError) : Except ViaParseError Unit := do
  ensure (input ≠ []) missing
  ensure (input.length ≤ maximum) (tooLong input.length maximum)
  match input.findIdx? fun byte => !isTokenByte byte with
  | some index => .error (invalid index (input.getD index 0))
  | none => .ok ()

/-- Read bytes as a text. -/
def readViaText (input : Bytes) (error : ViaParseError) : Except ViaParseError String :=
  match fromUtf8 input with
  | none => .error error
  | some text => .ok text

/-- A part of a sent protocol. -/
inductive ProtocolComponent
  | name
  | version
  | transport

/-- The error about an invalid byte of a part. -/
def ProtocolComponent.invalid : ProtocolComponent → Nat → UInt8 → ViaParseError
  | .name => .invalidProtocolName
  | .version => .invalidProtocolVersion
  | .transport => .invalidTransport

/-- Each part of a sent protocol is a token. -/
def validateProtocolToken (input : Bytes) (component : ProtocolComponent) :
    Except ViaParseError Unit :=
  validateToken input maxViaProtocolTokenBytes
    (match component with
      | .name => .emptyProtocolName
      | .version => .emptyProtocolVersion
      | .transport => .emptyTransport)
    .protocolTokenTooLong component.invalid

/-- The name of a protocol. -/
inductive ProtocolName
  | sip
  | extension (value : String)
  deriving DecidableEq

/-- The version of a protocol. -/
inductive ProtocolVersion
  | sip2
  | extension (value : String)
  deriving DecidableEq

/-- The transport of a hop. -/
inductive ViaTransport
  | udp
  | tcp
  | tls
  | sctp
  | extension (value : String)
  deriving DecidableEq

/-- Parse a protocol name; `SIP` in any case is the standard one. -/
def ProtocolName.fromBytes (input : Bytes) : Except ViaParseError ProtocolName := do
  validateProtocolToken input .name
  if eqIgnoreCase input (wireBytes "SIP") then .ok .sip
  else (readViaText input (.invalidProtocolName 0 (input.headD 0))).map .extension

/-- The text of a protocol name. -/
def ProtocolName.asStr : ProtocolName → String
  | .sip => "SIP"
  | .extension value => value

/-- Parse a protocol version. -/
def ProtocolVersion.fromBytes (input : Bytes) :
    Except ViaParseError ProtocolVersion := do
  validateProtocolToken input .version
  if input = wireBytes "2.0" then .ok .sip2
  else (readViaText input (.invalidProtocolVersion 0 (input.headD 0))).map .extension

/-- The text of a protocol version. -/
def ProtocolVersion.asStr : ProtocolVersion → String
  | .sip2 => "2.0"
  | .extension value => value

/-- Parse a transport; the standard ones are recognized in any case. -/
def ViaTransport.fromBytes (input : Bytes) : Except ViaParseError ViaTransport := do
  validateProtocolToken input .transport
  if eqIgnoreCase input (wireBytes "UDP") then .ok .udp
  else if eqIgnoreCase input (wireBytes "TCP") then .ok .tcp
  else if eqIgnoreCase input (wireBytes "TLS") then .ok .tls
  else if eqIgnoreCase input (wireBytes "SCTP") then .ok .sctp
  else (readViaText input (.invalidTransport 0 (input.headD 0))).map .extension

/-- The text of a transport. -/
def ViaTransport.asStr : ViaTransport → String
  | .udp => "UDP"
  | .tcp => "TCP"
  | .tls => "TLS"
  | .sctp => "SCTP"
  | .extension value => value

/-- The protocol that a hop was sent with. -/
structure SentProtocol where
  name : ProtocolName
  version : ProtocolVersion
  transport : ViaTransport
  deriving DecidableEq

/-- The text of a sent protocol. -/
def SentProtocol.render (protocol : SentProtocol) : Bytes :=
  wireBytes protocol.name.asStr ++ 47 :: wireBytes protocol.version.asStr ++
    47 :: wireBytes protocol.transport.asStr

/-- The response port of a hop. -/
inductive RPort
  | requested
  | value (port : UInt16)
  deriving DecidableEq

/-- The value of an extension parameter. -/
inductive ViaExtensionValue
  | token (value : String)
  | host (host : Host)
  | quoted (value : String)
  deriving DecidableEq

/-- The text of the value of an extension parameter. -/
def ViaExtensionValue.render : ViaExtensionValue → Bytes
  | .token value => wireBytes value
  | .host address => address.render
  | .quoted value => quote (wireBytes value)

/-- An extension parameter. -/
structure ViaExtensionParameter where
  name : String
  value : Option ViaExtensionValue
  deriving DecidableEq

/-- The text of an extension parameter. -/
def ViaExtensionParameter.render (parameter : ViaExtensionParameter) : Bytes :=
  wireBytes parameter.name ++
    match parameter.value with
    | none => []
    | some value => 61 :: value.render

/-- A parameter of a hop. -/
inductive ViaParameter
  | branch (value : String)
  | received (address : IpAddress)
  | rport (value : RPort)
  | maddr (host : Host)
  | ttl (value : UInt8)
  | extension (parameter : ViaExtensionParameter)
  deriving DecidableEq

/-- The name of a parameter, in any case. -/
def ViaParameter.name : ViaParameter → String
  | .branch _ => "branch"
  | .received _ => "received"
  | .rport _ => "rport"
  | .maddr _ => "maddr"
  | .ttl _ => "ttl"
  | .extension parameter => parameter.name

/-- The text of an address, without brackets. -/
def renderIpAddr : IpAddress → Bytes
  | .v4 address => renderIpv4 address
  | .v6 address => renderIpv6 address

/-- The text of a parameter. -/
def ViaParameter.render : ViaParameter → Bytes
  | .branch value => wireBytes "branch" ++ 61 :: wireBytes value
  | .received address => wireBytes "received" ++ 61 :: renderIpAddr address
  | .rport .requested => wireBytes "rport"
  | .rport (.value port) => wireBytes "rport" ++ 61 :: digits port.toNat
  | .maddr host => wireBytes "maddr" ++ 61 :: host.render
  | .ttl value => wireBytes "ttl" ++ 61 :: digits value.toNat
  | .extension parameter => parameter.render

/-- One Via hop. -/
structure ViaEntry where
  sentProtocol : SentProtocol
  sentByHost : Host
  sentByPort : Option UInt16
  parameters : List ViaParameter
  deriving DecidableEq

namespace ViaEntry

/-- An entry without parameters. -/
def new (sentProtocol : SentProtocol) (sentByHost : Host)
    (sentByPort : Option UInt16) : ViaEntry :=
  ⟨sentProtocol, sentByHost, sentByPort, []⟩

/-- Add a parameter with a new name. -/
def pushParameter (entry : ViaEntry) (parameter : ViaParameter) : Except ViaParseError ViaEntry :=
  if maxViaParameters ≤ entry.parameters.length then
    .error (.tooManyParameters maxViaParameters)
  else if entry.parameters.any fun existing =>
      eqIgnoreAsciiCase existing.name parameter.name then
    .error .duplicateParameter
  else
    .ok { entry with parameters := entry.parameters ++ [parameter] }

/-- The text of the port of an entry. -/
def renderPort (entry : ViaEntry) : Bytes :=
  match entry.sentByPort with
  | some port => 58 :: digits port.toNat
  | none => []

/-- The text of an entry. -/
def render (entry : ViaEntry) : Bytes :=
  entry.sentProtocol.render ++ 32 :: entry.sentByHost.render ++ entry.renderPort ++
    entry.parameters.flatMap fun parameter => 59 :: parameter.render

end ViaEntry

/-- A Via field value: at least one entry, and at most as many as fit. -/
structure Via where
  entries : List ViaEntry
  nonempty : entries ≠ []
  bounded : entries.length ≤ maxViaEntries
  deriving DecidableEq

namespace Via

/-- A value with the given entries. -/
def fromEntries (entries : List ViaEntry) : Except ViaParseError Via :=
  if nonempty : entries ≠ [] then
    if bounded : entries.length ≤ maxViaEntries then .ok ⟨entries, nonempty, bounded⟩
    else .error (.tooManyEntries maxViaEntries)
  else .error .empty

/-- Add a hop at the bottom. -/
def pushEntry (via : Via) (entry : ViaEntry) : Except ViaParseError Via :=
  if room : via.entries.length < maxViaEntries then
    .ok ⟨via.entries ++ [entry], by simp, by simpa using Nat.succ_le_of_lt room⟩
  else .error (.tooManyEntries maxViaEntries)

/-- The text of a value. -/
def render (via : Via) : Bytes := ([44, 32] : Bytes).intercalate (via.entries.map ViaEntry.render)

end Via

/-- A port number. -/
def parseViaPort (input : Bytes) : Except ViaParseError UInt16 := (parsePort input).mapError fun
    | .portOutOfRange => .portOutOfRange
    | _ => .invalidPort

/-- Read bytes as an IPv6 address. -/
def readViaIpv6 (input : Bytes) : Option (BitVec 128) :=
  (fromUtf8 input).bind fun text => parseIpv6Addr (wireBytes text)

/-- A host, an IPv6 address in brackets. -/
def parseViaHost (input : Bytes) : Option Host :=
  if input = [] then none
  else if input.head? = some 91 then
    if input.getLast? ≠ some 93 ∨ input.length < 3 then none
    else (readViaIpv6 input.tail.dropLast).map .ipv6
  else do
    let host ← fromUtf8 input
    match parseIpv4Addr (wireBytes host) with
    | some address => some (.ipv4 address)
    | none => (Host.fromDomain host).toOption

/-- A bracketed IPv6 address with an optional port. -/
def parseIpv6SentBy (input : Bytes) : Except ViaParseError (Host × Option UInt16) :=
  match cut 93 input with
  | none => .error .invalidSentByHost
  | some (bracketed, suffix) =>
    if bracketed.length ≤ 1 then .error .invalidSentByHost
    else
      match readViaIpv6 bracketed.tail with
      | none => .error .invalidSentByHost
      | some address =>
        match suffix with
        | [] => .ok (.ipv6 address, none)
        | first :: rest =>
          if first ≠ 58 then .error .invalidSentByHost
          else (parseViaPort rest).map fun port => (.ipv6 address, some port)

/-- A host with an optional port. -/
def parseSentBy (input : Bytes) : Except ViaParseError (Host × Option UInt16) :=
  if input = [] then .error .missingSentBy
  else if input.head? = some 91 then parseIpv6SentBy input
  else if input.contains 91 ∨ input.contains 93 then .error .invalidSentByHost
  else do
    let (host, port) ←
      match cut 58 input with
      | some (host, port) =>
        if port.contains 58 then .error .invalidSentByHost
        else (parseViaPort port).map fun port => (host, some port)
      | none => .ok (input, none)
    match parseViaHost host with
    | none => .error .invalidSentByHost
    | some host => return (host, port)

/-- Read bytes as an address of either family. -/
def parseIpAddr (input : Bytes) : Option IpAddress := parseWith (fun input =>
    match readIpv4Addr input with
    | some (address, rest) => some (.v4 address, rest)
    | none => (readIpv6Addr input).map fun read => (.v6 read.1, read.2)) input

/-- What follows the equals sign of a parameter that needs a value. -/
def requireParameterValue (input : Bytes) : Except ViaParseError Bytes :=
  match trimStart input with
  | [] => .error .missingParameterValue
  | first :: rest => do
    ensure (first = 61) .missingParameterValue
    let value := trimStart rest
    ensure (value ≠ []) .missingParameterValue
    return value

/-- A value up to the next semicolon, without the space around it, and the rest. -/
def takeUnquotedValue (input : Bytes) : Except ViaParseError (Bytes × Bytes) := do
  let value := trim (input.takeWhile (· != 59))
  ensure (value ≠ []) .missingParameterValue
  return (value, input.dropWhile (· != 59))

/-- What follows the opening quotation mark: the decoded value and the rest. -/
def parseQuotedValue (decoded : Bytes) : Bytes → Except ViaParseError (String × Bytes)
  | [] => .error .invalidQuotedString
  | byte :: rest =>
    if byte = 34 then
      (readViaText decoded .invalidQuotedString).map fun value => (value, rest)
    else if byte = 92 then
      match rest with
      | [] => .error .invalidQuotedString
      | escaped :: rest =>
        if isControl escaped then .error .invalidQuotedString
        else parseQuotedValue (decoded ++ [escaped]) rest
    else if byte = 9 then parseQuotedValue (decoded ++ [32]) rest
    else if isControl byte then .error .invalidQuotedString
    else parseQuotedValue (decoded ++ [byte]) rest

/-- A number of at most three digits, up to 255. -/
def parseTtl (input : Bytes) : Except ViaParseError UInt8 := do
  ensure (input ≠ [] ∧ input.length ≤ 3) .invalidTtl
  ensure (input.all isDigit = true) .invalidTtl
  let value := input.foldl (fun value byte => value * 10 + (byte.toNat - 48)) 0
  ensure (value ≤ 255) .invalidTtl
  return value.toUInt8

/-- A branch is a token. -/
def validateBranch (input : Bytes) : Except ViaParseError Unit :=
  validateToken input maxViaBranchBytes .missingParameterValue .branchTooLong .invalidBranch

/-- The name is one of the parameters that have their own type. -/
def isReservedParameterName (input : Bytes) : Bool :=
  ["branch", "received", "rport", "maddr", "ttl"].any fun name =>
    eqIgnoreCase input (wireBytes name)

/-- The name of an extension parameter is a token that is not reserved. -/
def validateExtensionName (input : Bytes) : Except ViaParseError Unit := do
  validateToken input maxViaParameterNameBytes .emptyParameter
    .parameterNameTooLong .invalidParameterName
  ensure (isReservedParameterName input = false) .reservedParameterName

/-- An unquoted value of an extension parameter is a token. -/
def validateExtensionTokenValue (input : Bytes) : Except ViaParseError Unit :=
  validateToken input maxViaParameterValueBytes .missingParameterValue
    .parameterValueTooLong .invalidExtensionValue

/-- A quoted value of an extension parameter has no control bytes. -/
def validateQuotedExtensionValue (input : Bytes) : Except ViaParseError Unit := do
  ensure (input.length ≤ maxViaParameterValueBytes)
    (.parameterValueTooLong input.length maxViaParameterValueBytes)
  ensure (input.any isControl = false) .invalidQuotedString

namespace ViaExtensionParameter

/-- A parameter without a value. -/
def flag (name : String) : Except ViaParseError ViaExtensionParameter := do
  validateExtensionName (wireBytes name)
  return ⟨name, none⟩

/-- A parameter whose value is a token. -/
def token (name value : String) : Except ViaParseError ViaExtensionParameter := do
  validateExtensionName (wireBytes name)
  validateExtensionTokenValue (wireBytes value)
  return ⟨name, some (.token value)⟩

/-- A parameter whose value is a host. -/
def host (name : String) (host : Host) : Except ViaParseError ViaExtensionParameter := do
  validateExtensionName (wireBytes name)
  return ⟨name, some (.host host)⟩

/-- A parameter whose value is a quoted string. -/
def quoted (name value : String) : Except ViaParseError ViaExtensionParameter := do
  validateExtensionName (wireBytes name)
  validateQuotedExtensionValue (wireBytes value)
  return ⟨name, some (.quoted value)⟩

end ViaExtensionParameter

/-- A parameter name and what follows it. -/
def parseParameterName (input : Bytes) : Except ViaParseError (String × Bytes) := do
  let name := input.takeWhile isTokenByte
  ensure (name ≠ []) (.invalidParameterName 0 (input.headD 0))
  ensure (name.length ≤ maxViaParameterNameBytes)
    (.parameterNameTooLong name.length maxViaParameterNameBytes)
  let text ← readViaText name (.invalidParameterName 0 (input.headD 0))
  return (text, input.dropWhile isTokenByte)

/-- The value of a branch. -/
def parseBranchParameter (input : Bytes) :
    Except ViaParseError (ViaParameter × Bytes) := do
  let value ← requireParameterValue input
  let (value, remaining) ← takeUnquotedValue value
  validateBranch value
  let branch ← readViaText value (.invalidBranch 0 (value.headD 0))
  return (.branch branch, remaining)

/-- The value of a received address. -/
def parseReceivedParameter (input : Bytes) :
    Except ViaParseError (ViaParameter × Bytes) := do
  let value ← requireParameterValue input
  let (value, remaining) ← takeUnquotedValue value
  let value ← readViaText value .invalidReceived
  match parseIpAddr (wireBytes value) with
  | none => .error .invalidReceived
  | some address => return (.received address, remaining)

/-- A response port, with or without a value. -/
def parseRPortParameter (input : Bytes) : Except ViaParseError (ViaParameter × Bytes) :=
  match trimStart input with
  | [] => .ok (.rport .requested, [])
  | first :: rest =>
    if first = 59 then .ok (.rport .requested, first :: rest)
    else do
      ensure (first = 61) (.invalidParameterSeparator first)
      let value := trimStart rest
      ensure (value ≠ []) .missingParameterValue
      let (value, remaining) ← takeUnquotedValue value
      let port ← (parseViaPort value).mapError fun _ => .invalidRPort
      return (.rport (.value port), remaining)

/-- The value of a multicast address. -/
def parseMaddrParameter (input : Bytes) :
    Except ViaParseError (ViaParameter × Bytes) := do
  let value ← requireParameterValue input
  let (value, remaining) ← takeUnquotedValue value
  match parseViaHost value with
  | none => .error .invalidMaddr
  | some host => return (.maddr host, remaining)

/-- The value of a time to live. -/
def parseTtlParameter (input : Bytes) :
    Except ViaParseError (ViaParameter × Bytes) := do
  let value ← requireParameterValue input
  let (value, remaining) ← takeUnquotedValue value
  let ttl ← parseTtl value
  return (.ttl ttl, remaining)

/-- The quoted value of an extension parameter, after its quotation mark. -/
def parseQuotedExtension (name : String) (input : Bytes) :
    Except ViaParseError (ViaParameter × Bytes) := do
  let (value, rest) ← parseQuotedValue [] input
  let remaining := trimStart rest
  ensure (remaining = [] ∨ remaining.head? = some 59) .unexpectedTrailingData
  let parameter ← ViaExtensionParameter.quoted name value
  return (.extension parameter, remaining)

/-- The unquoted value of an extension parameter: a token, or else a host. -/
def parseUnquotedExtension (name : String) (input : Bytes) :
    Except ViaParseError (ViaParameter × Bytes) := do
  let (value, remaining) ← takeUnquotedValue input
  match value.findIdx? fun byte => !isTokenByte byte with
  | none => do
    let text ← readViaText value (.invalidExtensionValue 0 (value.headD 0))
    let parameter ← ViaExtensionParameter.token name text
    return (.extension parameter, remaining)
  | some index =>
    match parseViaHost value with
    | some host => do
      let parameter ← ViaExtensionParameter.host name host
      return (.extension parameter, remaining)
    | none => .error (.invalidExtensionValue index (value.getD index 0))

/-- An extension parameter, with or without a value. -/
def parseExtensionParameter (name : String) (input : Bytes) :
    Except ViaParseError (ViaParameter × Bytes) := do
  validateExtensionName (wireBytes name)
  match trimStart input with
  | [] => do
    let parameter ← ViaExtensionParameter.flag name
    return (.extension parameter, [])
  | first :: rest =>
    if first = 59 then do
      let parameter ← ViaExtensionParameter.flag name
      return (.extension parameter, first :: rest)
    else do
      ensure (first = 61) (.invalidParameterSeparator first)
      match trimStart rest with
      | [] => .error .missingParameterValue
      | first :: rest =>
        if first = 34 then parseQuotedExtension name rest
        else parseUnquotedExtension name (first :: rest)

/-- A parameter of the given name. -/
def parseViaParameter (name : String) (input : Bytes) :
    Except ViaParseError (ViaParameter × Bytes) :=
  if eqIgnoreAsciiCase name "branch" then parseBranchParameter input
  else if eqIgnoreAsciiCase name "received" then parseReceivedParameter input
  else if eqIgnoreAsciiCase name "rport" then parseRPortParameter input
  else if eqIgnoreAsciiCase name "maddr" then parseMaddrParameter input
  else if eqIgnoreAsciiCase name "ttl" then parseTtlParameter input
  else parseExtensionParameter name input

/-- Failure of the parser with budgets. -/
inductive BudgetedParseError
  | parse (source : ViaParseError)
  | entryBudgetExceeded (attempted maximum : Nat)
  | totalParameterBudgetExceeded (attempted maximum : Nat)

/-- What is left of the capacities of the enclosing message. -/
structure ParseBudget where
  remainingEntries : Nat
  remainingParameters : Nat
  parsedParameters : Nat

/-- The largest machine word. -/
def usizeMax : Nat := wordSize - 1

/-- One more, up to the largest machine word. -/
def saturatingSucc (count : Nat) : Nat := min (count + 1) usizeMax

namespace ParseBudget

/-- The budget before the first entry. -/
def new (remainingEntries remainingParameters : Nat) : ParseBudget :=
  ⟨remainingEntries, remainingParameters, 0⟩

/-- One more entry must be within the budget. -/
def checkEntry (budget : ParseBudget) (existingEntries : Nat) : Except BudgetedParseError Unit :=
  let attempted := saturatingSucc existingEntries
  ensure (attempted ≤ budget.remainingEntries)
    (.entryBudgetExceeded attempted budget.remainingEntries)

/-- Count one more parameter. -/
def consumeParameter (budget : ParseBudget) : Except BudgetedParseError ParseBudget :=
  let attempted := saturatingSucc budget.parsedParameters
  if budget.remainingParameters < attempted then
    .error (.totalParameterBudgetExceeded attempted budget.remainingParameters)
  else
    .ok { budget with parsedParameters := attempted }

end ParseBudget

/-- A grammar error as an error of the parser with budgets. -/
def plain (outcome : Except ViaParseError α) : Except BudgetedParseError α :=
  outcome.mapError .parse

/-- The parameters that are left; the slots are what is left of the capacity of the
entry. -/
def parseViaParameters :
    Nat → ViaEntry → Bytes → ParseBudget → Except BudgetedParseError (ViaEntry × ParseBudget)
  | slots, entry, input, budget =>
    match trimStart input with
    | [] => .ok (entry, budget)
    | first :: rest => do
      ensure (first = 59) (.parse .unexpectedTrailingData)
      let input := trimStart rest
      ensure (input ≠ []) (.parse .emptyParameter)
      match slots with
      | 0 => .error (.parse (.tooManyParameters maxViaParameters))
      | slots + 1 => do
        let budget ← budget.consumeParameter
        let (name, remaining) ← plain (parseParameterName input)
        let (parameter, remaining) ← plain (parseViaParameter name (trimStart remaining))
        let entry ← plain (entry.pushParameter parameter)
        parseViaParameters slots entry remaining budget

/-- The three parts of a sent protocol. -/
def parseSentProtocol (input : Bytes) : Except ViaParseError SentProtocol :=
  match cut 47 input with
  | none => .error .invalidSentProtocol
  | some (name, rest) =>
    match cut 47 rest with
    | none => .error .invalidSentProtocol
    | some (version, transport) => do
      ensure (47 ∉ transport) .invalidSentProtocol
      let name ← ProtocolName.fromBytes name
      let version ← ProtocolVersion.fromBytes version
      let transport ← ViaTransport.fromBytes transport
      return ⟨name, version, transport⟩

/-- One entry; its parameters begin at the first semicolon. -/
def parseEntry (input : Bytes) (budget : ParseBudget) :
    Except BudgetedParseError (ViaEntry × ParseBudget) := do
  let protocol := input.takeWhile (!isWsp ·)
  let after := input.dropWhile (!isWsp ·)
  ensure (after ≠ []) (.parse .missingSentBy)
  ensure (protocol ≠ []) (.parse .missingSentProtocol)
  let sentProtocol ← plain (parseSentProtocol protocol)
  let remaining := trimStart after
  ensure (remaining ≠ []) (.parse .missingSentBy)
  let sentBy := trim (remaining.takeWhile (· != 59))
  ensure (sentBy ≠ []) (.parse .missingSentBy)
  let (host, port) ← plain (parseSentBy sentBy)
  parseViaParameters maxViaParameters (ViaEntry.new sentProtocol host port)
    (remaining.dropWhile (· != 59)) budget

/-- The entries so far and the budget that is left. -/
structure EntryState where
  entries : List ViaEntry
  budget : ParseBudget

/-- Add the entry that a text holds. -/
def pushParsedEntry (state : EntryState) (input : Bytes) :
    Except BudgetedParseError EntryState := do
  ensure (state.entries.length < maxViaEntries) (.parse (.tooManyEntries maxViaEntries))
  let input := trim input
  ensure (input ≠ []) (.parse .emptyEntry)
  state.budget.checkEntry state.entries.length
  let (entry, budget) ← parseEntry input state.budget
  return ⟨state.entries ++ [entry], budget⟩

/-- Scan for the commas outside of quoted strings, and add the entry before each. -/
def scanEntries (state : EntryState) (piece : Bytes) :
    Quoting → Bytes → Except BudgetedParseError EntryState
  | quoting, [] =>
    if quoting = .outside then pushParsedEntry state piece
    else .error (.parse .invalidQuotedString)
  | quoting, byte :: input =>
    if quoting = .outside ∧ byte = 44 then do
      let state ← pushParsedEntry state piece
      scanEntries state [] .outside input
    else
      match quoting.next byte with
      | none => .error (.parse .invalidQuotedString)
      | some quoting => scanEntries state (piece ++ [byte]) quoting input

/-- Parse a Via field value with the capacities that are left to it. -/
def parseWithBudget
    (input : Bytes) (remainingEntries remainingParameters : Nat) :
    Except BudgetedParseError Via := do
  ensure (input.length ≤ maxViaBytes) (.parse (.tooLong input.length maxViaBytes))
  let input := trim input
  ensure (input ≠ []) (.parse .empty)
  let state ← scanEntries ⟨[], .new remainingEntries remainingParameters⟩ [] .outside input
  plain (Via.fromEntries state.entries)

/-- Parse a Via field value. -/
def parseVia (input : Bytes) : Except ViaParseError Via :=
  (parseWithBudget input usizeMax usizeMax).mapError fun
    | .parse source => source
    | .entryBudgetExceeded _ _ => .tooManyEntries maxViaEntries
    | .totalParameterBudgetExceeded _ _ => .tooManyParameters maxViaParameters

/-- A hop whose extension value holds a comma and a semicolon is one entry. -/
example :
    (parseVia (wireBytes "SIP/2.0/udp h:5060 ;branch=z9hG4bK1; x=\"a,;\" , SIP/2.0/TCP g")).map
        (fun via => via.entries.length) = .ok 2 := by
  decide +kernel

end Headers
end Sip
end LiveAISIP
