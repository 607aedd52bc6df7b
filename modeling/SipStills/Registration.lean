/-
# Registration of an account with its registrar

A registrar answers a registration with a status code and an expiry.  The engine reports
the answers as snapshots (`AccountInfo`) and tells when a new attempt starts; the state of
the registration (`RegState`) is folded from these two kinds of report.

Main definitions: `AccountInfo.isActive`, `RegState.onStarted`, `RegState.onInfo`.
-/

namespace SipStills

/-- The status code of the last registration transaction; `0` until the first answer. -/
structure StatusCode where
  /-- The three-digit code; larger numbers may be reported too. -/
  code : UInt16
deriving DecidableEq

namespace StatusCode

/-- The success answer. -/
def ok : StatusCode := ⟨200⟩

/-- The hundreds of the code. -/
def kind (s : StatusCode) : UInt16 := s.code / 100

/-- The answer says that the transaction goes on. -/
def isProvisional (s : StatusCode) : Bool := s.kind = 1

/-- The answer says that the transaction succeeded. -/
def isSuccess (s : StatusCode) : Bool := s.kind = 2

/-- The reason phrase of the codes that have one. -/
def reason (s : StatusCode) : String :=
  match s.code.toNat with
  | 100 => "Trying"
  | 200 => "OK"
  | 401 => "Unauthorized"
  | 403 => "Forbidden"
  | 404 => "Not Found"
  | 407 => "Proxy Authentication Required"
  | 408 => "Request Timeout"
  | 500 => "Internal Server Error"
  | 503 => "Service Unavailable"
  | _ => ""

/-- The code in decimal digits. -/
def render (s : StatusCode) : String := toString s.code.toNat

end StatusCode

/-- The expiry that stands for "none was negotiated". -/
def expiryUnspecified : UInt32 := 4294967295

/-- What the engine says about one account at one moment. -/
structure AccountInfo where
  /-- The account is the engine's default account. -/
  isDefault : Bool := false
  /-- The account's own address. -/
  uri : String := ""
  /-- A registrar is configured. -/
  configured : Bool := false
  /-- Seconds until the registration expires. -/
  expires : UInt32 := expiryUnspecified
  /-- The registrar's last answer. -/
  status : StatusCode := ⟨0⟩
  /-- The reason phrase that came with it. -/
  statusText : String := ""
  /-- The engine's error number of the last registration, `0` for none. -/
  lastError : Int := 0
  /-- The presence flag. -/
  online : Bool := false
  /-- The presence text. -/
  onlineText : String := ""
deriving DecidableEq

namespace AccountInfo

/-- The account holds a live, successful registration. -/
def isActive (i : AccountInfo) : Bool :=
  i.configured && decide (0 < i.expires) && i.expires != expiryUnspecified && i.status.isSuccess

/-- The snapshot as one line of text. -/
def render (i : AccountInfo) : String :=
  "uri: " ++ i.uri ++ ", default: " ++ toString i.isDefault
    ++ ", registered: " ++ toString i.isActive
    ++ ", status: " ++ i.status.render ++ " " ++ i.statusText
    ++ ", expires: " ++ toString i.expires.toNat
    ++ ", last error: " ++ toString i.lastError
    ++ ", online: " ++ i.onlineText

end AccountInfo

/-- The state of an account's registration. -/
inductive RegState where
  /-- No registration is held or under way. -/
  | unregistered
  /-- A first attempt is under way. -/
  | registering
  /-- A registration is held. -/
  | registered
  /-- A registration is held and its renewal is under way. -/
  | renewing
  /-- The last attempt was refused with this status. -/
  | failed (status : StatusCode)
deriving DecidableEq

namespace RegState

/-- A new attempt starts.  It is a renewal only where a registration is held. -/
def onStarted (s : RegState) (renew : Bool) : RegState :=
  match s, renew with
  | .registered, true => .renewing
  | .renewing, true => .renewing
  | _, _ => .registering

/-- A snapshot arrives.  A failure stays until a new attempt starts; without a registrar
there is no registration; provisional answers, and none at all, say nothing new. -/
def onInfo (s : RegState) (info : AccountInfo) : RegState :=
  match s with
  | .failed code => .failed code
  | _ =>
    if !info.configured then .unregistered
    else if info.status.code = 0 || info.status.isProvisional then s
    else if !info.status.isSuccess then .failed info.status
    else if info.isActive then .registered
    else .unregistered

/-- A registration is held. -/
def isRegistered : RegState → Bool
  | .registered => true
  | .renewing => true
  | _ => false

end RegState

/-- A report about the registration of one account. -/
inductive RegReport where
  /-- An attempt starts; `renew` tells whether it renews a registration. -/
  | started (renew : Bool)
  /-- A snapshot arrives. -/
  | info (snapshot : AccountInfo)
deriving DecidableEq

namespace RegState

/-- One report applied to a state. -/
def apply (s : RegState) : RegReport → RegState
  | .started renew => s.onStarted renew
  | .info snapshot => s.onInfo snapshot

/-- The state after a history of reports, oldest first, of an account that starts without
a registration. -/
def ofHistory (reports : List RegReport) : RegState := reports.foldl apply .unregistered

end RegState
end SipStills
