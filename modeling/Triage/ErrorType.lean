/-
This file lists the types of errors that source-control work runs into. A type has an identifier,
and a text names a type when it is the identifier up to case and blanks at either end.
-/

import Triage.Text.Blank
import Triage.Text.Case
import Triage.Fault

namespace Triage

/-- The types of errors. -/
inductive ErrorType where
  | networkError
  | timeoutError
  | connectionResetError
  | dnsError
  | sslError
  | proxyError
  | firewallError
  | vpnError
  | internetConnectionError
  | authenticationError
  | github2faError
  | authorizationError
  | permissionDeniedError
  | localPermissionError
  | validationError
  | invalidInputError
  | notFoundError
  | githubRepositoryNotFound
  | githubBranchNotFound
  | gitlabProjectNotFound
  | gitlabBranchNotFound
  | localRepositoryNotFound
  | configurationError
  | fileNotFoundError
  | fileAccessError
  | fileLockError
  | diskSpaceError
  | fileCorruptionError
  | localFileError
  | githubSshError
  | gitlabSshError
  | serverError
  | rateLimitError
  | temporaryError
  | githubApiError
  | githubRateLimitError
  | gitlabApiError
  | gitlabRateLimitError
  | githubMaintenanceError
  | gitlabMaintenanceError
  | githubMergeConflict
  | githubPullRequestError
  | githubCommitError
  | githubFileError
  | githubWebhookError
  | gitlabMergeConflict
  | gitlabMergeRequestError
  | gitlabCommitError
  | gitlabFileError
  | gitlabPipelineError
  | localGitError
  | localGitCommandError
  | localGitMergeError
  | localGitPushError
  | localGitPullError
  | localGitCheckoutError
  | localGitBranchError
  | localGitCommitError
  | localGitStashError
  | localGitRebaseError
  | unknownError
  deriving DecidableEq, Repr

namespace ErrorType

instance : Inhabited ErrorType := ⟨.unknownError⟩

/-- The identifier of a type. -/
def id : ErrorType → String
  | .networkError => "network_error"
  | .timeoutError => "timeout_error"
  | .connectionResetError => "connection_reset_error"
  | .dnsError => "dns_error"
  | .sslError => "ssl_error"
  | .proxyError => "proxy_error"
  | .firewallError => "firewall_error"
  | .vpnError => "vpn_error"
  | .internetConnectionError => "internet_connection_error"
  | .authenticationError => "authentication_error"
  | .github2faError => "github_2fa_error"
  | .authorizationError => "authorization_error"
  | .permissionDeniedError => "permission_denied_error"
  | .localPermissionError => "local_permission_error"
  | .validationError => "validation_error"
  | .invalidInputError => "invalid_input_error"
  | .notFoundError => "not_found_error"
  | .githubRepositoryNotFound => "github_repository_not_found"
  | .githubBranchNotFound => "github_branch_not_found"
  | .gitlabProjectNotFound => "gitlab_project_not_found"
  | .gitlabBranchNotFound => "gitlab_branch_not_found"
  | .localRepositoryNotFound => "local_repository_not_found"
  | .configurationError => "configuration_error"
  | .fileNotFoundError => "file_not_found_error"
  | .fileAccessError => "file_access_error"
  | .fileLockError => "file_lock_error"
  | .diskSpaceError => "disk_space_error"
  | .fileCorruptionError => "file_corruption_error"
  | .localFileError => "local_file_error"
  | .githubSshError => "github_ssh_error"
  | .gitlabSshError => "gitlab_ssh_error"
  | .serverError => "server_error"
  | .rateLimitError => "rate_limit_error"
  | .temporaryError => "temporary_error"
  | .githubApiError => "github_api_error"
  | .githubRateLimitError => "github_rate_limit_error"
  | .gitlabApiError => "gitlab_api_error"
  | .gitlabRateLimitError => "gitlab_rate_limit_error"
  | .githubMaintenanceError => "github_maintenance_error"
  | .gitlabMaintenanceError => "gitlab_maintenance_error"
  | .githubMergeConflict => "github_merge_conflict"
  | .githubPullRequestError => "github_pull_request_error"
  | .githubCommitError => "github_commit_error"
  | .githubFileError => "github_file_error"
  | .githubWebhookError => "github_webhook_error"
  | .gitlabMergeConflict => "gitlab_merge_conflict"
  | .gitlabMergeRequestError => "gitlab_merge_request_error"
  | .gitlabCommitError => "gitlab_commit_error"
  | .gitlabFileError => "gitlab_file_error"
  | .gitlabPipelineError => "gitlab_pipeline_error"
  | .localGitError => "local_git_error"
  | .localGitCommandError => "local_git_command_error"
  | .localGitMergeError => "local_git_merge_error"
  | .localGitPushError => "local_git_push_error"
  | .localGitPullError => "local_git_pull_error"
  | .localGitCheckoutError => "local_git_checkout_error"
  | .localGitBranchError => "local_git_branch_error"
  | .localGitCommitError => "local_git_commit_error"
  | .localGitStashError => "local_git_stash_error"
  | .localGitRebaseError => "local_git_rebase_error"
  | .unknownError => "unknown_error"

/-- All types, in their order. -/
def all : List ErrorType := [
  .networkError, .timeoutError, .connectionResetError, .dnsError, .sslError, .proxyError,
  .firewallError, .vpnError, .internetConnectionError, .authenticationError, .github2faError,
  .authorizationError, .permissionDeniedError, .localPermissionError, .validationError,
  .invalidInputError, .notFoundError, .githubRepositoryNotFound, .githubBranchNotFound,
  .gitlabProjectNotFound, .gitlabBranchNotFound, .localRepositoryNotFound, .configurationError,
  .fileNotFoundError, .fileAccessError, .fileLockError, .diskSpaceError, .fileCorruptionError,
  .localFileError, .githubSshError, .gitlabSshError, .serverError, .rateLimitError,
  .temporaryError, .githubApiError, .githubRateLimitError, .gitlabApiError,
  .gitlabRateLimitError, .githubMaintenanceError, .gitlabMaintenanceError, .githubMergeConflict,
  .githubPullRequestError, .githubCommitError, .githubFileError, .githubWebhookError,
  .gitlabMergeConflict, .gitlabMergeRequestError, .gitlabCommitError, .gitlabFileError,
  .gitlabPipelineError, .localGitError, .localGitCommandError, .localGitMergeError,
  .localGitPushError, .localGitPullError, .localGitCheckoutError, .localGitBranchError,
  .localGitCommitError, .localGitStashError, .localGitRebaseError, .unknownError]

/-- The place of a type among all of them. -/
def index (errorType : ErrorType) : Nat :=
  errorType.ctorIdx

/-- The type with an identifier. -/
def ofId? (id : String) : Option ErrorType :=
  all.find? (·.id == id)

/-- The type that a text names. -/
def ofName? (name : String) : Option ErrorType :=
  ofId? (Text.lowercase (Text.trim name))

/-- The type that a text names; the fault shows the text as it was given. -/
def parse (name : String) : Except Fault ErrorType :=
  match ofName? name with
  | some errorType => .ok errorType
  | none => .error (.unknownErrorType name)

end ErrorType

end Triage
