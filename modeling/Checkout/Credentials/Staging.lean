import Checkout.Credentials.Helper
import Checkout.Defaults
import Checkout.Environment
import Checkout.Machine
import Checkout.Text.Blank
import Checkout.Url.Reader

/-!
# Staging credentials

Credentials that are mounted somewhere are copied into a private directory, and the environment of git
is made to point there. `stageInto` handles four things in order: verification of certificates, the CA
bundle, basic authentication in one of two layouts, and SSH keys. It writes nothing outside the private
directory.
-/

namespace Checkout

open Text

/-- Where credentials come from, and the URL they are for. -/
structure CredentialSource where
  url : String
  basicAuthDir : Option ByteString
  sshDir : Option ByteString
  caBundle : Option ByteString
  sslVerify : Bool
  deriving DecidableEq, Repr

namespace Credentials

variable {ρ : Type}

/-- Permission bits of a staged file: only its owner may read it. -/
def privateFileMode : Nat := 0o400

/-- Writes a file that only its owner may read. One that breaks off keeps the bits of a new file. -/
def writePrivate (path : ByteString) (content : List UInt8) : Run ρ Unit := do
  Run.writeFile path content
  Run.alter fun fs here => fs.setMode here path privateFileMode

/-- The host of a URL with its port, as a credential names it. -/
def hostOf (url : String) : Except UrlError String :=
  (Url.ofText url).map fun u => String.ofList u.hostText

/-- The line of a credential file for a host. -/
def credentialLine (username password host : String) : String :=
  s!"https://{trim username}:{trim password}@{host}\n"

/-- A configuration that takes the credentials of a host from a file, whose path name is shown. -/
def helperSection (host path : String) : String :=
  s!"[credential \"https://{host}\"]\n  helper = store --file={path}\n"

/-- Stages a credential file and a configuration that come as they are. -/
def stageStore (authDir privateDir : ByteString) : Run ρ ByteString := do
  let credentials := Pathname.join privateDir ".git-credentials"
  let config := Pathname.join privateDir ".gitconfig"
  write .info .credentials "Setting up basic auth from .git-credentials and .gitconfig"
  writePrivate credentials
    (← Run.query fun fs here => fs.readBytes here (Pathname.join authDir ".git-credentials"))
  let text ← Run.query fun fs here => fs.readText here (Pathname.join authDir ".gitconfig")
  writePrivate config (encode (rewriteHelper text credentials.shown))
  write .info .credentials "Basic auth credentials configured"
  return config

/-- Stages the name and the password of a user for the host of the URL. -/
def stageUser (url : String) (authDir privateDir : ByteString) : Run ρ ByteString := do
  let credentials := Pathname.join privateDir ".git-credentials"
  let config := Pathname.join privateDir ".gitconfig"
  write .info .credentials "Setting up basic auth from username/password files"
  let username ← Run.query fun fs here => fs.readText here (Pathname.join authDir "username")
  let password ← Run.query fun fs here => fs.readText here (Pathname.join authDir "password")
  let host ← Run.ofExcept ((hostOf url).mapError .urlParse)
  writePrivate credentials (encode (credentialLine username password host))
  writePrivate config (encode (helperSection host credentials.shown))
  write .info .credentials s!"Basic auth credentials configured for {host}"
  return config

/-- Stages basic authentication and gives the staged configuration, or nothing where the directory does
not exist. -/
def stageBasicAuth (url : String) (authDir privateDir : ByteString) :
    Run ρ (Option ByteString) := do
  if !(← Run.ask fun fs here => fs.pathExists here authDir) then
    write .warn .credentials s!"Basic auth directory not found: {authDir}"
    return none
  let hasFiles := fun (a b : ByteString) => Run.ask (ρ := ρ) fun fs here =>
    fs.isFile here (Pathname.join authDir a) && fs.isFile here (Pathname.join authDir b)
  if ← hasFiles ".git-credentials" ".gitconfig" then
    return some (← stageStore authDir privateDir)
  else if ← hasFiles "username" "password" then
    return some (← stageUser url authDir privateDir)
  else
    throw (.authFormat authDir)

/-- A file with this name is a private key. The name is looked at as it is shown. -/
def isKeyName (name : ByteString) : Bool :=
  name.shown.startsWith "id_" && !name.shown.endsWith ".pub"

/-- The names in a directory that lead to files, in the order of their bytes. Every name must lead
somewhere. -/
def fileNames (dir : ByteString) : Run ρ (List ByteString) := do
  let names ← Run.query fun fs here => fs.listDir here dir
  let files ← (names.mergeSort fun a b => decide (a ≤ b)).filterMapM fun name => do
    let (_, e) ← Run.query fun fs here => fs.locate here (Pathname.join dir name)
    return if e.isFile then some name else none
  return files

/-- The command that uses the staged keys. It is text, so it names each key by its path name as that is
shown. -/
def sshCommand (destination : ByteString) (names : List ByteString) (hasKnownHosts : Bool) : String :=
  "ssh" ++
    String.join ((names.filter isKeyName).map fun n => " -i " ++ (Pathname.join destination n).shown) ++
    (if hasKnownHosts then
      " -o UserKnownHostsFile=" ++ (Pathname.join destination "known_hosts").shown
    else "")

/-- Copies one file into the directory of staged keys. -/
def copyKey (dir destination name : ByteString) : Run ρ Unit := do
  let content ← Run.query fun fs here => fs.readBytes here (Pathname.join dir name)
  writePrivate (Pathname.join destination name) content

/-- Stages SSH keys and gives the command that uses them, or nothing where the directory does not
exist. -/
def stageSsh (sshDir privateDir : ByteString) : Run ρ (Option String) := do
  if !(← Run.ask fun fs here => fs.pathExists here sshDir) then
    write .warn .credentials s!"SSH directory not found: {sshDir}"
    return none
  write .info .credentials s!"Setting up SSH keys from {sshDir}"
  let destination := Pathname.join privateDir ".ssh"
  Run.makeDirs destination
  Run.alter fun fs here => fs.setMode here destination Run.privateDirMode
  let names ← fileNames sshDir
  names.forM (copyKey sshDir destination)
  let hasKnownHosts ← Run.ask fun fs here =>
    fs.isFile here (Pathname.join destination "known_hosts")
  let command := sshCommand destination names hasKnownHosts
  write .info .credentials s!"SSH keys configured (GIT_SSH_COMMAND={command})"
  return some command

/-- The environment as far as certificates go. -/
def stageCertificates (source : CredentialSource) : Run ρ GitEnvironment := do
  let mut env := GitEnvironment.default
  if !source.sslVerify then
    write .info .credentials "Disabling SSL verification (GIT_SSL_NO_VERIFY=true)"
    env := env.withSslVerify false
  let bundle := Defaults.caBundle source.caBundle
  if ← Run.ask fun fs here => fs.pathExists here bundle then
    write .info .credentials s!"Using mounted CA bundle: {bundle}"
    env := env.withCaBundle bundle
  return env

/-- Stages everything into a private directory and gives the environment that points there. -/
def stageInto (source : CredentialSource) (privateDir : ByteString) : Run ρ GitEnvironment := do
  let env ← stageCertificates source
  let config ← match source.basicAuthDir with
    | some dir => stageBasicAuth source.url dir privateDir
    | none => pure none
  let command ← match source.sshDir with
    | some dir => stageSsh dir privateDir
    | none => pure none
  let env := match config with
    | some path => env.withGitConfig path
    | none => env
  return match command with
    | some c => env.withSshCommand c
    | none => env

end Credentials

end Checkout
