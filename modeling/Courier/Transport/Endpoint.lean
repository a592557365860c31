import Courier.Config
import Courier.Transport.Error

/-! Addresses of transports: a scheme that selects the kind of transport, and what it needs. -/

namespace Courier

inductive TransportKind where
  | http
  | file
  | stdio
  | channel
deriving Repr, DecidableEq, Inhabited

namespace TransportKind

def name : TransportKind → String
  | http => "http"
  | file => "file"
  | stdio => "stdio"
  | channel => "channel"

def ofScheme? : String → Option TransportKind
  | "http" => some http
  | "https" => some http
  | "file" => some file
  | "stdio" => some stdio
  | "chan" => some channel
  | _ => none

end TransportKind

structure Endpoint where
  kind : TransportKind
  scheme : String
  /-- What follows the scheme and its separator. -/
  address : String
  url : String
deriving Repr, DecidableEq

namespace Endpoint

def splitScheme : List Char → Option (List Char × List Char)
  | [] => none
  | ':' :: '/' :: '/' :: rest => some ([], rest)
  | c :: rest => (splitScheme rest).map fun (scheme, address) => (c :: scheme, address)

/-- Takes an address apart. Only a file cannot do without what follows the scheme. -/
def parse (url : String) : Except TransportError Endpoint :=
  let (scheme, address) :=
    match splitScheme url.toList with
    | some (scheme, address) => (String.ofList scheme, String.ofList address)
    | none => (url, "")
  match TransportKind.ofScheme? scheme with
  | none => .error (.unsupportedScheme scheme url)
  | some kind =>
    if kind = .file && address.isEmpty then .error (.invalidAddress url)
    else .ok ⟨kind, scheme, address, url⟩

end Endpoint

structure HttpConfig where
  timeout : Duration := .ofSeconds 10
  inboxCapacity : Nat := 256
  maxBodyBytes : Nat := 1048576
deriving Repr, DecidableEq, Inhabited

def defaultChannelCapacity : Nat := 256

/-- The settings of transports that are made from addresses. -/
structure DialOptions where
  channelCapacity : Nat := defaultChannelCapacity
  http : HttpConfig := {}
deriving Repr, DecidableEq, Inhabited

def Config.Transport.dialOptions (t : Config.Transport) : DialOptions :=
  ⟨t.channelCapacity, ⟨t.httpTimeout, t.httpInboxCapacity, t.httpMaxBodyBytes⟩⟩

end Courier
