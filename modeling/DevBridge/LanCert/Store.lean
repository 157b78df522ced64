import DevBridge.Lib.Files

/-!
# The certificate pair of the LAN API

The listener serves `cert.pem` and `key.pem`.  A new pair is written beside the old one and
renamed in, the key first; what a failure or a crash leaves behind is rolled forward by
`finish_pending` before the next check.  Whether a chain and a key can be served together is
asked of the TLS library.
-/

namespace DevBridge

/-- The files of the directory. -/
inductive CertFile where
  | key
  /-- `key.pem.new`. -/
  | keyNew
  | cert
  /-- `cert.pem.new`. -/
  | certNew
deriving DecidableEq, Repr

namespace LanCert

variable {β : Type}

abbrev CertIo (β : Type) := FileIo CertFile β

/-- `std::fs::read`. -/
def read (f : CertFile) : CertIo β (List β) := FileIo.lift (.read f)

/-- Write a file and flush it to the disk. -/
def writeDurable (f : CertFile) (content : List β) : CertIo β Unit := do
  let _ ← FileIo.lift (.write f content)

/-- The file is created and restricted before its content is written. -/
def writePrivate (f : CertFile) (content : List β) : CertIo β Unit := do
  let _ ← FileIo.lift (.write f [])
  let _ ← FileIo.lift .arrange
  writeDurable f content

def removeIfPresent (f : CertFile) : CertIo β Unit := do
  match ← FileIo.attempt (FileIo.lift (.remove f)) with
  | .ok _ => pure ()
  | .error .notFound => pure ()
  | .error e => throw e

def install (source target : CertFile) : CertIo β Unit := do
  let _ ← FileIo.lift (.rename source target)

/-- The part of `store` whose failure leaves the old pair. -/
def stage (key chain : List β) : CertIo β Unit := do
  writePrivate .keyNew key
  writeDurable .certNew chain
  install .keyNew .key

/-- The old pair is untouched: nothing half-written is left behind. -/
def abandon (e : IoError) : CertIo β Unit := do
  let _ ← FileIo.attempt (removeIfPresent .keyNew)
  let _ ← FileIo.attempt (removeIfPresent .certNew)
  throw e

/-- Replace the pair: both are written next to their place, then renamed in, key first. -/
def store (key chain : List β) : CertIo β Unit := do
  let _ ← FileIo.lift .arrange
  match ← FileIo.attempt (stage key chain) with
  | .error e => abandon e
  | .ok _ => install .certNew .cert

variable (usable : List β → List β → Bool)

/-- What is pending belongs to no key: it is removed. -/
def discardPending : CertIo β Bool := do
  removeIfPresent .keyNew
  removeIfPresent .certNew
  pure false

/-- The pending certificate is read: it is installed with the new key, or after it. -/
def installPending (chain : List β) : CertIo β Bool := do
  match ← FileIo.attempt (read .keyNew) with
  | .ok newKey =>
    if usable chain newKey then
      install .keyNew .key
      install .certNew .cert
      pure true
    else discardPending
  | .error _ =>
    match ← FileIo.attempt (read .key) with
    | .ok key =>
      if usable chain key then
        install .certNew .cert
        pure true
      else discardPending
    | .error _ => discardPending

/-- Roll an interrupted `store` forward: a pending certificate that belongs to the new key,
pending or installed already, is installed; anything else pending is removed. -/
def finishPending : CertIo β Bool := do
  match ← FileIo.attempt (read .certNew) with
  | .error _ =>
    removeIfPresent .keyNew
    pure false
  | .ok chain => installPending usable chain

end LanCert

end DevBridge
