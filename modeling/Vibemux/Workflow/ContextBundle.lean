import Vibemux.Workflow.Receipts

/-!
# Context bundles

A bundle carries line ranges of a collected snapshot and attributed claims to a named audience. Values
that look like secrets are replaced before the byte budget is checked.
-/

namespace Vibemux

open Text SortDedup Checked

/-! ## Redaction -/

/-- The text, the number of replaced values, and the rules that fired. -/
structure Redaction where
  text : List Char
  count : Nat
  rules : List (List Char)
deriving DecidableEq

/-- What stands for a value that a rule replaced. -/
def redactionMark (rule : List Char) : List Char := "[redacted:".toList ++ rule ++ [']']

/-- The start of the first line of a key block. -/
def keyBegin : List Char := "-----BEGIN".toList

/-- The end of the first line of a key block. -/
def keyHeaderEnd : List Char := "PRIVATE KEY-----".toList

def keyEnd : List Char := "-----END".toList

/-- What follows a key block, from the text behind its first line: the line break behind the line
that ends it. -/
def behindKeyBlock (body : List Char) : List Char :=
  match splitOnce keyEnd body with
  | none => []
  | some (_, footer) =>
    match splitOnce "-----\n".toList (keyEnd ++ footer) with
    | none => []
    | some (_, behind) => '\n' :: behind

/-- The text before and behind the first private key block. -/
def keyBlock (text : List Char) : Option (List Char × List Char) :=
  match splitOnce keyBegin text with
  | none => none
  | some (before, rest) =>
    match splitOnce keyHeaderEnd (keyBegin ++ rest) with
    | none => none
    | some (_, body) => some (before, behindKeyBlock body)

/-- The first step of `redact`. -/
def redactKeyBlock (text : List Char) : Redaction :=
  match keyBlock text with
  | none => ⟨text, 0, []⟩
  | some (before, behind) =>
    ⟨before ++ (redactionMark "private_key".toList ++ behind), 1, ["private_key".toList]⟩

/-- A pattern of secret tokens. -/
structure TokenRule where
  rule : List Char
  /-- The text a token starts with. -/
  leading : List Char
  minimum : Nat
  allowed : Char → Bool

def tokenByte (c : Char) : Bool := c.isAlphanum || c == '_' || c == '-'

/-- `is_ascii_graphic`. -/
def bearerByte (c : Char) : Bool := 33 ≤ c.toNat && c.toNat ≤ 126

def upperAlnum (c : Char) : Bool := c.isUpper || c.isDigit

def apiKeyRule : TokenRule := ⟨"api_key".toList, "sk-".toList, 20, tokenByte⟩

def githubTokenRule : TokenRule := ⟨"github_token".toList, "ghp_".toList, 20, tokenByte⟩

def githubPatRule : TokenRule := ⟨"github_token".toList, "github_pat_".toList, 20, tokenByte⟩

def awsKeyRule : TokenRule := ⟨"aws_access_key".toList, "AKIA".toList, 16, upperAlnum⟩

def bearerRule : TokenRule := ⟨"bearer_token".toList, "Bearer ".toList, 16, bearerByte⟩

/-- `TOKEN_RULES`. -/
def tokenRules : List TokenRule :=
  [apiKeyRule, githubTokenRule, githubPatRule, awsKeyRule, bearerRule]

/-- Whether a token may follow this character. -/
def isTokenBoundary (last : Option Char) : Bool := last.all fun c => !c.isAlphanum

/-- The loop over the occurrences of `leading`. The text is `searched ++ rest`, and the search goes
on in `rest`; `fuel` bounds the number of rounds. -/
def redactTokensFrom (rule : TokenRule) : Nat → List Char → List Char → List Char × Nat
  | 0, searched, rest => (searched ++ rest, 0)
  | fuel + 1, searched, rest =>
    match splitOnce rule.leading rest with
    | none => (searched ++ rest, 0)
    | some (skipped, after) =>
      let before := searched ++ skipped
      let value := after.takeWhile rule.allowed
      if isTokenBoundary before.getLast? = true ∧ rule.minimum ≤ value.length then
        let next := redactTokensFrom rule fuel (before ++ redactionMark rule.rule)
          (after.dropWhile rule.allowed)
        (next.1, next.2 + 1)
      else redactTokensFrom rule fuel (before ++ rule.leading) after

/-- One token rule of `redact`. Each round goes on in a shorter text. -/
def redactTokens (redaction : Redaction) (rule : TokenRule) : Redaction :=
  let result := redactTokensFrom rule (redaction.text.length + 1) [] redaction.text
  ⟨result.1, redaction.count + result.2,
    redaction.rules ++ List.replicate result.2 rule.rule⟩

/-- The names of `redact_assignments`. -/
def credentialNames : List (List Char) :=
  ["api_key", "apikey", "secret", "password", "passwd", "token", "credential"].map String.toList

/-- Whether a lowercase name mentions a credential. -/
def mentionsCredential (name : List Char) : Bool := credentialNames.any (contains name ·)

def isValueQuote (c : Char) : Bool := c == '"' || c == '\x27' || c == ',' || c == ';'

/-- The value of an assignment, from the text behind the separator. -/
def assignedValue (rest : List Char) : List Char :=
  trimEndMatches isValueQuote (trimStartMatches isValueQuote (trim rest))

def redactedStart : List Char := "[redacted".toList

/-- Whether the text behind a separator is replaced. -/
def isAssignedSecret (rest : List Char) : Bool :=
  let value := assignedValue rest
  8 ≤ byteLen value && !value.contains ' ' && !redactedStart.isPrefixOf value

def credentialAssignment : List Char := "credential_assignment".toList

/-- The name before the separator of a lowercase line: the first `=`, or else the first `:`. -/
def assignmentName (lower : List Char) : Option (List Char) :=
  ((splitOnce ['='] lower).or (splitOnce [':'] lower)).map Prod.fst

/-- A line of `redact_assignments`, if it is rewritten. -/
def redactLine (line : List Char) : Option (List Char) :=
  match assignmentName (toAsciiLowercase line) with
  | none => none
  | some name =>
    if mentionsCredential name && isAssignedSecret (line.drop (name.length + 1)) then
      some (line.take (name.length + 1) ++ redactionMark credentialAssignment ++
        if line.getLast? = some '\n' then ['\n'] else [])
    else none

def redactAssignments (text : List Char) : List Char × Nat :=
  let lines := splitInclusive '\n' text
  (lines.flatMap fun line => (redactLine line).getD line,
    lines.countP fun line => (redactLine line).isSome)

/-- Replaces values that look like secrets. -/
def redact (text : List Char) : Redaction :=
  let output := tokenRules.foldl redactTokens (redactKeyBlock text)
  let assigned := redactAssignments output.text
  if 0 < assigned.2 then
    ⟨assigned.1, output.count + assigned.2, output.rules ++ [credentialAssignment]⟩
  else output

/-! ## Bundles -/

deriving instance Ord for Participant

/-- The lines of a file that a bundle takes. -/
structure FileSelection where
  path : List Char
  startLine : Nat
  endLine : Nat
deriving DecidableEq, Ord

/-- The candidate snapshot a bundle is drawn from. -/
structure SnapshotView where
  taskKey : SpecIdentifier
  source : Participant
  snapshotDigest : Sha256Digest
  baseCommit : List Char
  /-- Text files by path. -/
  files : List (List Char × List Char)

/-- What a bundle is made of. -/
structure BundleRequest where
  bundleId : Uuid
  workflowId : Uuid
  requestMessageId : Option Uuid
  selections : List FileSelection
  claims : List AttributedClaim
  audience : List Participant
  maxBytes : Nat

/-- Why there is no bundle. -/
inductive BundleError where
  /-- Selection is outside the snapshot or its line range is invalid. -/
  | invalidSelection
  /-- Too many selections or claims. -/
  | tooManyItems
  /-- Claim text is empty or too large. -/
  | invalidClaim
  /-- Bundle exceeds its byte budget. -/
  | overBudget
  /-- Bundle needs an audience. -/
  | noAudience
deriving DecidableEq

def contextBundleSchemaVersion : Nat := 1

def bundleDigestDomain : List Char := "vibemux.workflow.context_bundle.v1".toList

def maxSelections : Nat := 16

def maxClaims : Nat := 16

def maxClaimBytes : Nat := 2048

/-- The selected lines of a file. -/
def selectedText (snapshot : SnapshotView) (selection : FileSelection) :
    Except BundleError (List Char) := do
  let text ← require (OrderedMap.get snapshot.files selection.path) .invalidSelection
  let lines := splitInclusive '\n' text
  ensure (selection.startLine ≠ 0 ∧ selection.startLine ≤ selection.endLine ∧
    selection.endLine ≤ lines.length) .invalidSelection
  return ((lines.take selection.endLine).drop (selection.startLine - 1)).flatten

def RedactionReport.add (report : RedactionReport) (redaction : Redaction) : RedactionReport :=
  ⟨report.rulesApplied ++ redaction.rules, report.redactedValues + redaction.count⟩

/-- The loop over the selections. -/
def bundleExcerpts (snapshot : SnapshotView) (report : RedactionReport) :
    List FileSelection →
      Except BundleError (List FileExcerpt × List SourceFileRef × RedactionReport)
  | [] => .ok ([], [], report)
  | selection :: rest => do
    let raw ← selectedText snapshot selection
    let clean := redact raw
    let (excerpts, refs, report) ← bundleExcerpts snapshot (report.add clean) rest
    return (⟨selection.path, selection.startLine, selection.endLine, clean.text⟩ :: excerpts,
      ⟨selection.path, selection.startLine, selection.endLine, snapshot.snapshotDigest⟩ :: refs,
      report)

/-- The loop over the claims. -/
def bundleClaims (report : RedactionReport) :
    List AttributedClaim → Except BundleError (List AttributedClaim × RedactionReport)
  | [] => .ok ([], report)
  | claim :: rest => do
    ensure (trim claim.text ≠ [] ∧ byteLen claim.text ≤ maxClaimBytes) .invalidClaim
    let clean := redact claim.text
    let (claims, report) ← bundleClaims (report.add clean) rest
    return (⟨claim.attribution, clean.text⟩ :: claims, report)

def Attribution.label : Attribution → List Char
  | workerClaim taskKey => "claim by worker ".toList ++ taskKey.text ++ " (unverified)".toList
  | verifierConfirmed receiptDigest =>
    "verifier-confirmed (receipt ".toList ++ receiptDigest.toHex ++ [')']

def AttributedClaim.rendered (claim : AttributedClaim) : List Char :=
  "- ".toList ++ claim.attribution.label ++ ": ".toList ++ claim.text ++ ['\n']

def FileExcerpt.rendered (excerpt : FileExcerpt) : List Char :=
  "excerpt ".toList ++ excerpt.path ++ " lines ".toList ++ decimal excerpt.startLine ++ '-' ::
    decimal excerpt.endLine ++ ":\n".toList ++ excerpt.text ++
      if excerpt.text.getLast? = some '\n' then [] else ['\n']

/-- The text a recipient receives; the content digest covers it. -/
def renderBundleText (bundle : ContextBundle) : List Char :=
  "Context from task ".toList ++ bundle.sourceTask.text ++ " (snapshot ".toList ++
    bundle.snapshotDigest.toHex ++ ", base ".toList ++ bundle.baseCommit ++ ").\n".toList ++
    bundle.claims.flatMap AttributedClaim.rendered ++
      bundle.excerpts.flatMap FileExcerpt.rendered

/-- `of` and `ofFields` are the digests of a text and of fields under a domain. -/
def buildBundle (of : List Char → Sha256Digest)
    (ofFields : List Char → List (List Char) → Sha256Digest) (request : BundleRequest)
    (snapshot : SnapshotView) : Except BundleError ContextBundle := do
  ensure (request.selections.length ≤ maxSelections ∧ request.claims.length ≤ maxClaims)
    .tooManyItems
  ensure (request.audience ≠ []) .noAudience
  let (excerpts, sourceRefs, report) ←
    bundleExcerpts snapshot ⟨[], 0⟩ (sortDedup request.selections)
  let (claims, report) ← bundleClaims report request.claims
  let bundle : ContextBundle :=
    { schemaVersion := contextBundleSchemaVersion
      bundleId := request.bundleId
      version := 1
      workflowId := request.workflowId
      source := snapshot.source
      sourceTask := snapshot.taskKey
      baseCommit := snapshot.baseCommit
      snapshotDigest := snapshot.snapshotDigest
      audience := sortDedup request.audience
      requestMessageId := request.requestMessageId
      sourceRefs := sourceRefs
      excerpts := excerpts
      claims := claims
      redaction := ⟨sortDedup report.rulesApplied, report.redactedValues⟩
      byteCount := 0
      contentDigest := of [] }
  let text := renderBundleText bundle
  ensure (byteLen text ≤ request.maxBytes) .overBudget
  return { bundle with
    byteCount := byteLen text
    contentDigest := ofFields bundleDigestDomain [text] }

end Vibemux
