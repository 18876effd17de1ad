/-
This file holds the policy of every error type: how severe it is, what it belongs to, whether and
how often trying again is worth while, and the words and patterns that point to it.
-/

import Triage.Policy

namespace Triage

namespace Catalogue

/-- A policy of trying again. -/
def retried (severity : Severity) (category : Category) (delay : Float) (count : UInt32)
    (description : String) (keywords patterns : List String) : Policy :=
  ⟨severity, category, true, delay, count, description, keywords, patterns⟩

/-- A policy of giving up at once. -/
def final (severity : Severity) (category : Category) (description : String)
    (keywords patterns : List String) : Policy :=
  ⟨severity, category, false, 0, 0, description, keywords, patterns⟩

/-- The policy of every type. -/
def policyOf : ErrorType → Policy
  | .networkError => retried .medium .network 1.0 3 "General network connectivity error"
      ["network", "connection", "timeout"]
      ["network.*error", "connection.*failed", "timeout"]
  | .timeoutError => retried .medium .network 2.0 3 "Request timeout error"
      ["timeout", "timed out", "deadline"]
      ["timeout", "timed out", "deadline exceeded"]
  | .connectionResetError => retried .medium .network 1.5 3 "Connection was reset by peer"
      ["connection reset", "reset by peer"]
      ["connection.*reset", "reset by peer"]
  | .dnsError => retried .high .network 5.0 2 "DNS resolution error"
      ["dns", "name resolution", "hostname"]
      ["dns.*error", "name resolution", "hostname.*not found"]
  | .sslError => retried .high .network 3.0 2 "SSL/TLS connection error"
      ["ssl", "tls", "certificate"]
      ["ssl.*error", "tls.*error", "certificate.*error"]
  | .proxyError => retried .medium .network 2.0 3 "Proxy connection error"
      ["proxy", "tunnel"]
      ["proxy.*error", "proxy.*refused", "407"]
  | .firewallError => final .high .network "Connection blocked by firewall"
      ["firewall", "blocked"]
      ["firewall", "blocked by"]
  | .vpnError => retried .high .network 5.0 2 "VPN connection error"
      ["vpn", "tunnel down"]
      ["vpn.*error", "vpn.*disconnected"]
  | .internetConnectionError => retried .high .network 5.0 3 "No internet connection"
      ["internet", "offline", "unreachable"]
      ["network.*unreachable", "no.*internet", "offline"]
  | .authenticationError => final .high .authentication "Authentication failed"
      ["auth", "login", "credentials", "token"]
      ["auth.*failed", "invalid.*credentials", "unauthorized"]
  | .github2faError => final .high .authentication "GitHub 2FA authentication required"
      ["2fa", "two factor", "otp", "totp"]
      ["2fa.*required", "two.*factor", "otp.*required"]
  | .authorizationError => final .high .authorization "Authorization failed"
      ["forbidden", "access denied", "permission"]
      ["forbidden", "access.*denied", "permission.*denied"]
  | .permissionDeniedError => final .high .authorization "Permission denied"
      ["permission", "denied", "access"]
      ["permission.*denied", "access.*denied"]
  | .localPermissionError => final .medium .authorization "Local filesystem permission denied"
      ["permission", "local", "not permitted"]
      ["operation not permitted", "eacces"]
  | .validationError => final .medium .validation "Input validation error"
      ["validation", "invalid", "bad request"]
      ["validation.*error", "invalid.*input", "bad.*request"]
  | .invalidInputError => final .medium .validation "Invalid input provided"
      ["invalid", "input", "malformed"]
      ["invalid.*input", "malformed.*request"]
  | .notFoundError => final .medium .validation "Resource not found"
      ["not found", "404", "missing"]
      ["not.*found", "404", "missing.*resource"]
  | .githubRepositoryNotFound => final .medium .validation "GitHub repository not found"
      ["repository", "not found", "github"]
      ["repository.*not.*found"]
  | .githubBranchNotFound => final .medium .validation "GitHub branch not found"
      ["branch", "not found", "github"]
      ["branch.*not.*found"]
  | .gitlabProjectNotFound => final .medium .validation "GitLab project not found"
      ["project", "not found", "gitlab"]
      ["project.*not.*found"]
  | .gitlabBranchNotFound => final .medium .validation "GitLab branch not found"
      ["branch", "not found", "gitlab"]
      ["branch.*not.*found"]
  | .localRepositoryNotFound => final .medium .validation "Local repository not found"
      ["not a git repository", "repository"]
      ["not a git repository"]
  | .configurationError => final .high .configuration "Configuration error"
      ["config", "configuration", "setup"]
      ["config.*error", "configuration.*error", "setup.*error"]
  | .fileNotFoundError => final .medium .fileSystem "File not found"
      ["file", "not found", "missing"]
      ["file.*not.*found", "no.*such.*file"]
  | .fileAccessError => final .medium .fileSystem "File access error"
      ["file", "access", "permission"]
      ["file.*access", "permission.*denied"]
  | .fileLockError => retried .medium .fileSystem 1.0 3 "File is locked by another process"
      ["lock", "locked"]
      ["\\.lock", "file.*locked", "unable to create.*lock"]
  | .diskSpaceError => final .high .fileSystem "Insufficient disk space"
      ["disk", "space", "full"]
      ["disk.*space", "no.*space", "device.*full"]
  | .fileCorruptionError => final .critical .fileSystem "File or object corruption"
      ["corrupt", "checksum", "bad object"]
      ["corrupt", "checksum.*mismatch", "bad object"]
  | .localFileError => final .medium .fileSystem "Local file operation error"
      ["file", "local"]
      ["local.*file", "file.*error"]
  | .githubSshError => retried .high .security 2.0 2 "GitHub SSH authentication error"
      ["ssh", "github", "key"]
      ["ssh.*error", "github.*ssh", "key.*error"]
  | .gitlabSshError => retried .high .security 2.0 2 "GitLab SSH authentication error"
      ["ssh", "gitlab", "key"]
      ["ssh.*error", "gitlab.*ssh", "key.*error"]
  | .serverError => retried .high .api 3.0 3 "Server error"
      ["server", "error", "500"]
      ["server.*error", "500", "internal.*error"]
  | .rateLimitError => retried .medium .api 60.0 1 "Rate limit exceeded"
      ["rate", "limit", "quota", "throttle"]
      ["rate.*limit", "quota.*exceeded", "throttle"]
  | .temporaryError => retried .medium .api 2.0 3 "Temporary service error"
      ["temporary", "service", "unavailable"]
      ["temporary", "service.*unavailable", "try.*again"]
  | .githubApiError => retried .high .api 3.0 3 "GitHub API error"
      ["github", "api"]
      ["github.*api", "api\\.github\\.com"]
  | .githubRateLimitError => retried .medium .api 60.0 1 "GitHub API rate limit exceeded"
      ["github", "rate limit", "secondary rate limit"]
      ["api rate limit exceeded", "secondary rate limit"]
  | .gitlabApiError => retried .high .api 3.0 3 "GitLab API error"
      ["gitlab", "api"]
      ["gitlab.*api", "/api/v4/"]
  | .gitlabRateLimitError => retried .medium .api 60.0 1 "GitLab API rate limit exceeded"
      ["gitlab", "rate limit", "retry later"]
      ["gitlab.*rate.*limit", "retry later"]
  | .githubMaintenanceError => retried .high .api 120.0 2 "GitHub is under maintenance"
      ["github", "maintenance"]
      ["github.*maintenance", "scheduled maintenance"]
  | .gitlabMaintenanceError => retried .high .api 120.0 2 "GitLab is under maintenance"
      ["gitlab", "maintenance"]
      ["gitlab.*maintenance", "deploy in progress"]
  | .githubMergeConflict => final .medium .provider "GitHub merge conflict"
      ["merge", "conflict", "github"]
      ["merge.*conflict", "conflict.*github"]
  | .githubPullRequestError => final .medium .provider "GitHub pull request error"
      ["pull request", "github"]
      ["pull request.*(failed|error)", "a pull request already exists"]
  | .githubCommitError => final .medium .provider "GitHub commit error"
      ["commit", "github"]
      ["commit.*failed", "sha.*does not match"]
  | .githubFileError => final .medium .provider "GitHub file content error"
      ["file", "github", "contents"]
      ["contents.*failed", "sha.*wasn't supplied"]
  | .githubWebhookError => retried .low .provider 5.0 3 "GitHub webhook delivery error"
      ["webhook", "hook", "delivery"]
      ["webhook.*(failed|error)", "hook.*delivery"]
  | .gitlabMergeConflict => final .medium .provider "GitLab merge conflict"
      ["merge", "conflict", "gitlab"]
      ["merge.*conflict", "conflict.*gitlab"]
  | .gitlabMergeRequestError => final .medium .provider "GitLab merge request error"
      ["merge request", "gitlab"]
      ["merge request.*(failed|error)", "another open merge request"]
  | .gitlabCommitError => final .medium .provider "GitLab commit error"
      ["commit", "gitlab"]
      ["commit.*failed", "a file with this name already exists"]
  | .gitlabFileError => final .medium .provider "GitLab repository file error"
      ["file", "gitlab"]
      ["repository file.*(failed|error)", "file.*doesn't exist"]
  | .gitlabPipelineError => retried .medium .provider 10.0 2 "GitLab pipeline error"
      ["pipeline", "job", "gitlab"]
      ["pipeline.*failed", "job.*failed"]
  | .localGitError => final .medium .localGit "Local Git operation error"
      ["git", "local", "command"]
      ["git.*error", "local.*git"]
  | .localGitCommandError => final .medium .localGit "Local Git command error"
      ["git", "command", "failed"]
      ["git.*command", "command.*failed"]
  | .localGitMergeError => final .medium .localGit "Local Git merge error"
      ["merge", "conflict", "local"]
      ["automatic merge failed", "fix conflicts"]
  | .localGitPushError => retried .medium .localGit 2.0 3 "Local Git push error"
      ["push", "rejected", "remote"]
      ["failed to push", "\\[rejected\\]"]
  | .localGitPullError => retried .medium .localGit 2.0 3 "Local Git pull error"
      ["pull", "fetch", "remote"]
      ["could not read from remote", "pull.*failed"]
  | .localGitCheckoutError => final .medium .localGit "Local Git checkout error"
      ["checkout", "pathspec", "overwritten"]
      ["pathspec.*did not match", "would be overwritten by checkout"]
  | .localGitBranchError => final .medium .localGit "Local Git branch error"
      ["branch", "already exists"]
      ["a branch named .* already exists", "not a valid branch name"]
  | .localGitCommitError => final .medium .localGit "Local Git commit error"
      ["commit", "nothing to commit"]
      ["nothing to commit", "commit.*failed"]
  | .localGitStashError => final .low .localGit "Local Git stash error"
      ["stash"]
      ["no stash entries", "stash.*failed"]
  | .localGitRebaseError => final .medium .localGit "Local Git rebase error"
      ["rebase", "conflict"]
      ["could not apply", "rebase.*in progress"]
  | .unknownError => final .medium .unknown "Unknown error type"
      ["unknown", "unexpected", "error"]
      ["unknown", "unexpected", "error"]

end Catalogue

/-- The policy of a type. -/
def ErrorType.policy (errorType : ErrorType) : Policy :=
  Catalogue.policyOf errorType

namespace Catalogue

/-- The identifiers of the types that satisfy a condition, in increasing order. -/
def idsWhere (condition : ErrorType → Bool) : List String :=
  ((ErrorType.all.filter condition).map (·.id)).mergeSort fun first second => first ≤ second

/-- The identifiers of the types of a category. -/
def idsOfCategory (category : Category) : List String :=
  idsWhere fun errorType => errorType.policy.category == category

/-- The identifiers of the types of a severity. -/
def idsOfSeverity (severity : Severity) : List String :=
  idsWhere fun errorType => errorType.policy.severity == severity

/-- The types that are listed under a category, or all of them, in their order. -/
def listed (category : Option Category) : List ErrorType :=
  ErrorType.all.filter fun errorType =>
    category.all fun category => errorType.policy.category == category

end Catalogue

end Triage
