import Soundwave.FingerprintForms

/-!
# The identity of the server

Model of `load_or_create_server_config`: the certificate and the key of the server are two
files, written by the first start and read by the later ones.  Every call of the operating
system may fail, a write may leave a part of its file, and the process may end anywhere.
One server starts at a time; a file keeps what was written to it.

A phone pins the fingerprint of the certificate, so that a server with another certificate
is one that it refuses.
-/

namespace Soundwave

/-- An error of the file system: whether its kind is `NotFound`, and its text. -/
structure FileError where
  notFound : Bool
  text : String
deriving DecidableEq

/-- `server-cert.der` and `server-key.der`, if they exist. -/
structure IdentityDir where
  certificate : Option (List UInt8)
  privateKey : Option (List UInt8)
deriving DecidableEq

/-- `CertificateIdentity`. -/
structure CertificateIdentity where
  certificate : List UInt8
  fingerprint : Fingerprint
deriving DecidableEq

/-- How a call of `fs::write` ends: whole, or with an error or the end of the process and
the length of what it has written, unless the file could not be opened. -/
inductive WriteOutcome where
  | whole
  | failed (text : String) (kept : Option Nat)
  | killed (kept : Option Nat)
deriving DecidableEq

/-- What a start meets: errors of the directory and of the two reads, a key pair that is
generated or an error, and the ends of the two writes. -/
structure StartInput where
  directory : Option String
  readCertificate : Option String
  readKey : Option String
  missing : String
  generated : Except String (List UInt8 × List UInt8)
  writeCertificate : WriteOutcome
  writeKey : WriteOutcome

/-- How a start ends. -/
inductive StartResult where
  | running (identity : CertificateIdentity)
  | certificateError (text : String)
  | killed
deriving DecidableEq

namespace ServerIdentity

section Model

variable (sha256 : List UInt8 → Fingerprint)
  (withSingleCert : List UInt8 → List UInt8 → Except String Unit) (path : String)

/-- `identity_io_error`. -/
def identityIoError (text : String) : StartResult :=
  .certificateError s!"server identity I/O error: {text}"

/-- `fs::read`. -/
def read (file : Option (List UInt8)) (error : Option String) (missing : String) :
    Except FileError (List UInt8) :=
  match error, file with
  | some text, _ => .error { notFound := false, text := text }
  | none, some bytes => .ok bytes
  | none, none => .error { notFound := true, text := missing }

/-- What `fs::write` leaves of a file. -/
def written (file : Option (List UInt8)) (bytes : List UInt8) : WriteOutcome → Option (List UInt8)
  | .whole => some bytes
  | .failed _ kept | .killed kept =>
      match kept with
      | some n => some (bytes.take n)
      | none => file

/-- `describe_identity_read`. -/
def describeIdentityRead : Except FileError (List UInt8) → String
  | .ok _ => "ok"
  | .error error => error.text

/-- `server_config_from_der`. -/
def serverConfigFromDer (certificate privateKey : List UInt8) : StartResult :=
  match withSingleCert certificate privateKey with
  | .ok () => .running { certificate := certificate, fingerprint := sha256 certificate }
  | .error text => .certificateError text

/-- The first start: a key pair is generated and written. -/
def create (dir : IdentityDir) (input : StartInput) : IdentityDir × StartResult :=
  match input.generated with
  | .error text => (dir, .certificateError text)
  | .ok (certificate, privateKey) =>
      let dir := { dir with
        certificate := written dir.certificate certificate input.writeCertificate }
      match input.writeCertificate with
      | .killed _ => (dir, .killed)
      | .failed text _ => (dir, identityIoError text)
      | .whole =>
          let dir := { dir with privateKey := written dir.privateKey privateKey input.writeKey }
          match input.writeKey with
          | .killed _ => (dir, .killed)
          | .failed text _ => (dir, identityIoError text)
          | .whole => (dir, serverConfigFromDer sha256 withSingleCert certificate privateKey)

/-- The text of the error about an identity that is neither whole nor absent. -/
def incomplete (certificate privateKey : Except FileError (List UInt8)) : String :=
  s!"incomplete or unreadable server identity in {path} " ++
    s!"(certificate: {describeIdentityRead certificate}, key: {describeIdentityRead privateKey})"

/-- `load_or_create_server_config`: the directory after it, and how it ends. -/
def loadOrCreateServerConfig (dir : IdentityDir) (input : StartInput) :
    IdentityDir × StartResult :=
  match input.directory with
  | some text => (dir, identityIoError text)
  | none =>
      let certificate := read dir.certificate input.readCertificate input.missing
      let privateKey := read dir.privateKey input.readKey input.missing
      match certificate, privateKey with
      | .ok certificate, .ok privateKey =>
          (dir, serverConfigFromDer sha256 withSingleCert certificate privateKey)
      | .error certificateError, .error keyError =>
          if certificateError.notFound ∧ keyError.notFound then
            create sha256 withSingleCert dir input
          else
            (dir, .certificateError (incomplete path certificate privateKey))
      | _, _ => (dir, .certificateError (incomplete path certificate privateKey))

/-- The results of a sequence of starts, and the directory after them. -/
def starts : IdentityDir → List StartInput → IdentityDir × List StartResult
  | dir, [] => (dir, [])
  | dir, input :: inputs =>
      let first := loadOrCreateServerConfig sha256 withSingleCert path dir input
      let later := starts first.1 inputs
      (later.1, first.2 :: later.2)

/-- `FingerprintVerifier::verify_server_cert`. -/
def verifyServerCert (expected : List UInt8) (endEntity : List UInt8) : Except String Unit :=
  if (sha256 endEntity).bytes = expected then
    .ok ()
  else
    .error "server certificate fingerprint does not match the pinned fingerprint"

end Model

section Starts

open PairingPayload

variable (sha256 : List UInt8 → Fingerprint)
  (withSingleCert : List UInt8 → List UInt8 → Except String Unit) (path : String)

/-- The directory holds an identity. -/
def Held (dir : IdentityDir) (identity : CertificateIdentity) : Prop :=
  dir.certificate = some identity.certificate ∧ dir.privateKey.isSome = true ∧
    identity.fingerprint = sha256 identity.certificate

theorem serverConfigFromDer_cases (certificate privateKey : List UInt8) :
    (∃ text, serverConfigFromDer sha256 withSingleCert certificate privateKey =
        .certificateError text) ∨
      serverConfigFromDer sha256 withSingleCert certificate privateKey =
        .running { certificate := certificate, fingerprint := sha256 certificate } := by
  rw [serverConfigFromDer]
  split
  · exact Or.inr rfl
  · exact Or.inl ⟨_, rfl⟩

/-- What a start does: it fails, loads what is there, or finds nothing and creates. -/
theorem load_cases (dir : IdentityDir) (input : StartInput) :
    (∃ text, loadOrCreateServerConfig sha256 withSingleCert path dir input =
        (dir, .certificateError text)) ∨
      (∃ certificate privateKey,
        dir = { certificate := some certificate, privateKey := some privateKey } ∧
        loadOrCreateServerConfig sha256 withSingleCert path dir input =
          (dir, serverConfigFromDer sha256 withSingleCert certificate privateKey)) ∨
      (dir = { certificate := none, privateKey := none } ∧
        loadOrCreateServerConfig sha256 withSingleCert path dir input =
          create sha256 withSingleCert dir input) := by
  obtain ⟨certificate, privateKey⟩ := dir
  rw [loadOrCreateServerConfig]
  cases input.directory with
  | some text => exact Or.inl ⟨_, rfl⟩
  | none =>
      cases input.readCertificate with
      | some text =>
          cases input.readKey with
          | some text => exact Or.inl ⟨_, rfl⟩
          | none =>
              cases privateKey with
              | none => exact Or.inl ⟨_, rfl⟩
              | some privateKey => exact Or.inl ⟨_, rfl⟩
      | none =>
          cases input.readKey with
          | some text =>
              cases certificate with
              | none => exact Or.inl ⟨_, rfl⟩
              | some certificate => exact Or.inl ⟨_, rfl⟩
          | none =>
              cases certificate with
              | none =>
                  cases privateKey with
                  | none => exact Or.inr (Or.inr ⟨rfl, rfl⟩)
                  | some privateKey => exact Or.inl ⟨_, rfl⟩
              | some certificate =>
                  cases privateKey with
                  | none => exact Or.inl ⟨_, rfl⟩
                  | some privateKey => exact Or.inr (Or.inl ⟨_, _, rfl, rfl⟩)

/-- An identity that runs was written whole before. -/
theorem create_held {dir : IdentityDir} {input : StartInput} {identity : CertificateIdentity}
    (h : (create sha256 withSingleCert dir input).2 = .running identity) :
    Held sha256 (create sha256 withSingleCert dir input).1 identity := by
  rw [create] at h ⊢
  cases hgenerated : input.generated with
  | error text =>
      rw [hgenerated] at h
      cases h
  | ok pair =>
      simp only [hgenerated] at h ⊢
      cases hcertificate : input.writeCertificate with
      | failed text kept =>
          rw [hcertificate] at h
          cases h
      | killed kept =>
          rw [hcertificate] at h
          cases h
      | whole =>
          simp only [hcertificate] at h ⊢
          cases hkey : input.writeKey with
          | failed text kept =>
              rw [hkey] at h
              cases h
          | killed kept =>
              rw [hkey] at h
              cases h
          | whole =>
              simp only [hkey] at h ⊢
              rcases serverConfigFromDer_cases sha256 withSingleCert pair.1 pair.2 with
                ⟨text, heq⟩ | heq
              · rw [heq] at h
                cases h
              · rw [heq] at h
                cases h
                exact ⟨rfl, rfl, rfl⟩

/-- After a start that runs, the directory holds its identity. -/
theorem held_of_running {dir : IdentityDir} {input : StartInput} {identity : CertificateIdentity}
    (h : (loadOrCreateServerConfig sha256 withSingleCert path dir input).2 = .running identity) :
    Held sha256 (loadOrCreateServerConfig sha256 withSingleCert path dir input).1 identity := by
  rcases load_cases sha256 withSingleCert path dir input with
    ⟨text, heq⟩ | ⟨certificate, privateKey, rfl, heq⟩ | ⟨_, heq⟩
  · rw [heq] at h
    cases h
  · rw [heq] at h ⊢
    rcases serverConfigFromDer_cases sha256 withSingleCert certificate privateKey with
      ⟨text, hconfig⟩ | hconfig
    · rw [hconfig] at h
      cases h
    · rw [hconfig] at h
      cases h
      exact ⟨rfl, rfl, rfl⟩
  · rw [heq] at h ⊢
    exact create_held sha256 withSingleCert h

/-- A start with an identity that is held changes nothing, and runs with that identity if it
runs at all. -/
theorem load_of_held {dir : IdentityDir} {identity : CertificateIdentity}
    (h : Held sha256 dir identity) (input : StartInput) :
    (loadOrCreateServerConfig sha256 withSingleCert path dir input).1 = dir ∧
      ∀ later, (loadOrCreateServerConfig sha256 withSingleCert path dir input).2 =
        .running later → later = identity := by
  obtain ⟨hcertificate, hkey, hfingerprint⟩ := h
  rcases load_cases sha256 withSingleCert path dir input with
    ⟨text, heq⟩ | ⟨certificate, privateKey, rfl, heq⟩ | ⟨rfl, heq⟩
  · rw [heq]
    exact ⟨rfl, fun later hlater => by cases hlater⟩
  · rw [heq]
    refine ⟨rfl, fun later hlater => ?_⟩
    rcases serverConfigFromDer_cases sha256 withSingleCert certificate privateKey with
      ⟨text, hconfig⟩ | hconfig
    · rw [hconfig] at hlater
      cases hlater
    · rw [hconfig] at hlater
      cases hlater
      cases hcertificate
      rw [← hfingerprint]
  · cases hcertificate

/-- A start with one file of two fails and changes nothing. -/
theorem load_of_broken {dir : IdentityDir}
    (h : dir.certificate.isSome ≠ dir.privateKey.isSome) (input : StartInput) :
    ∃ text, loadOrCreateServerConfig sha256 withSingleCert path dir input =
      (dir, .certificateError text) := by
  rcases load_cases sha256 withSingleCert path dir input with
    hfails | ⟨certificate, privateKey, rfl, _⟩ | ⟨rfl, _⟩
  · exact hfails
  · exact absurd rfl h
  · exact absurd rfl h

theorem starts_of_held {identity : CertificateIdentity} (inputs : List StartInput) :
    ∀ {dir : IdentityDir}, Held sha256 dir identity →
      (starts sha256 withSingleCert path dir inputs).1 = dir ∧
        ∀ later, .running later ∈ (starts sha256 withSingleCert path dir inputs).2 →
          later = identity := by
  induction inputs with
  | nil => exact fun _ => ⟨rfl, fun _ hmem => by cases hmem⟩
  | cons input inputs ih =>
      intro dir h
      obtain ⟨hdir, hsame⟩ := load_of_held sha256 withSingleCert path h input
      obtain ⟨hrest, hlater⟩ := ih h
      simp only [starts, hdir]
      refine ⟨hrest, fun later hmem => ?_⟩
      rcases List.mem_cons.mp hmem with heq | hmem
      · exact hsame later heq.symm
      · exact hlater later hmem

theorem starts_of_broken (inputs : List StartInput) :
    ∀ {dir : IdentityDir}, dir.certificate.isSome ≠ dir.privateKey.isSome →
      (starts sha256 withSingleCert path dir inputs).1 = dir ∧
        ∀ result ∈ (starts sha256 withSingleCert path dir inputs).2,
          ∃ text, result = .certificateError text := by
  induction inputs with
  | nil => exact fun _ => ⟨rfl, fun _ hmem => by cases hmem⟩
  | cons input inputs ih =>
      intro dir h
      obtain ⟨text, hfails⟩ := load_of_broken sha256 withSingleCert path h input
      obtain ⟨hrest, hlater⟩ := ih h
      simp only [starts, hfails]
      refine ⟨hrest, fun result hmem => ?_⟩
      rcases List.mem_cons.mp hmem with rfl | hmem
      · exact ⟨text, rfl⟩
      · exact hlater result hmem

theorem starts_same (inputs : List StartInput) : ∀ dir : IdentityDir,
    (starts sha256 withSingleCert path dir inputs).2.Pairwise fun first later =>
      ∀ identity identity', first = .running identity → later = .running identity' →
        identity' = identity ∧ identity.fingerprint = sha256 identity.certificate := by
  induction inputs with
  | nil => exact fun _ => List.Pairwise.nil
  | cons input inputs ih =>
      intro dir
      refine List.Pairwise.cons (fun later hmem identity identity' hfirst hlater => ?_) (ih _)
      have hheld := held_of_running sha256 withSingleCert path hfirst
      rw [hlater] at hmem
      exact ⟨(starts_of_held sha256 withSingleCert path inputs hheld).2 identity' hmem, hheld.2.2⟩

theorem starts_append (dir : IdentityDir) (before after : List StartInput) :
    starts sha256 withSingleCert path dir (before ++ after) =
      ((starts sha256 withSingleCert path
          (starts sha256 withSingleCert path dir before).1 after).1,
        (starts sha256 withSingleCert path dir before).2 ++
          (starts sha256 withSingleCert path
            (starts sha256 withSingleCert path dir before).1 after).2) := by
  induction before generalizing dir with
  | nil => rfl
  | cons input before ih => simp only [List.cons_append, starts, ih]

theorem held_of_mem {identity : CertificateIdentity} (inputs : List StartInput) :
    ∀ dir : IdentityDir, .running identity ∈ (starts sha256 withSingleCert path dir inputs).2 →
      Held sha256 (starts sha256 withSingleCert path dir inputs).1 identity := by
  induction inputs with
  | nil => exact fun _ hmem => by cases hmem
  | cons input inputs ih =>
      intro dir hmem
      rcases List.mem_cons.mp hmem with heq | hmem
      · have hheld := held_of_running sha256 withSingleCert path heq.symm
        simp only [starts, (starts_of_held sha256 withSingleCert path inputs hheld).1]
        exact hheld
      · exact ih _ hmem

/-- A phone that has read the fingerprint in any spelling that `parse_fingerprint` knows
accepts the certificate. -/
theorem pinned_accepts {identity : CertificateIdentity}
    (h : identity.fingerprint = sha256 identity.certificate) {spelled : List Char}
    (hspelled : Respelled (formatFingerprint identity.fingerprint) spelled)
    (hspaces : ¬HasOtherWhitespace spelled) :
    ∃ pinned, parseFingerprint spelled = .ok pinned ∧
      verifyServerCert sha256 pinned identity.certificate = .ok () := by
  refine ⟨_, (parseFingerprint_respelled_iff hspelled).mpr hspaces, ?_⟩
  rw [verifyServerCert, h, if_pos rfl]

/-- What a phone that is paired may rely on.  All starts that run have the same identity;
the phone that pinned it on one of them accepts each later one; once a start has run,
nothing is written any more; and an identity of which only one file exists is never
replaced by another one. -/
structure Lasting (dir : IdentityDir) (inputs : List StartInput) : Prop where
  same : (starts sha256 withSingleCert path dir inputs).2.Pairwise fun first later =>
    ∀ identity identity', first = .running identity → later = .running identity' →
      identity' = identity
  accepted : (starts sha256 withSingleCert path dir inputs).2.Pairwise fun first later =>
    ∀ identity identity', first = .running identity → later = .running identity' →
      ∀ spelled, Respelled (formatFingerprint identity.fingerprint) spelled →
        ¬HasOtherWhitespace spelled →
        ∃ pinned, parseFingerprint spelled = .ok pinned ∧
          verifyServerCert sha256 pinned identity'.certificate = .ok ()
  kept : ∀ before after identity, inputs = before ++ after →
    .running identity ∈ (starts sha256 withSingleCert path dir before).2 →
    (starts sha256 withSingleCert path dir inputs).1 =
      (starts sha256 withSingleCert path dir before).1
  broken : dir.certificate.isSome ≠ dir.privateKey.isSome →
    (starts sha256 withSingleCert path dir inputs).1 = dir ∧
      ∀ result ∈ (starts sha256 withSingleCert path dir inputs).2,
        ∃ text, result = .certificateError text

/-- **A paired phone stays paired.**  Over every sequence of starts, whatever fails in them
and wherever they are killed. -/
theorem identity_is_kept (dir : IdentityDir) (inputs : List StartInput) :
    Lasting sha256 withSingleCert path dir inputs where
  same := (starts_same sha256 withSingleCert path inputs dir).imp
    fun h identity identity' hfirst hlater => (h identity identity' hfirst hlater).1
  accepted := (starts_same sha256 withSingleCert path inputs dir).imp
    fun h identity identity' hfirst hlater spelled hspelled hspaces => by
      obtain ⟨hsame, hfingerprint⟩ := h identity identity' hfirst hlater
      rw [hsame]
      exact pinned_accepts sha256 hfingerprint hspelled hspaces
  kept := fun before after identity heq hmem => by
    rw [heq, starts_append]
    exact (starts_of_held sha256 withSingleCert path after
      (held_of_mem sha256 withSingleCert path before dir hmem)).1
  broken := starts_of_broken sha256 withSingleCert path inputs

end Starts

end ServerIdentity

end Soundwave
