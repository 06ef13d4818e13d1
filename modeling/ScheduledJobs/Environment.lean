import ScheduledJobs.Document.Form

/-!
# Cloud environments

The endpoints of a cloud, and where the token for it is found.
-/

namespace ScheduledJobs

/-- Where the services of a cloud are reached. -/
structure Environment where
  /-- The audience of tokens for directory clients that name none. -/
  managementEndpoint : String := "https://management.core.windows.net/"
  /-- The address under which resources are managed. -/
  resourceEndpoint : String := "https://management.azure.com/"
  apiVersion : String := "2016-03-01"
  /-- The environment variable that holds the token. -/
  tokenVariable : String := "ARM_ACCESS_TOKEN"
  deriving DecidableEq, Inhabited

open Document in
def Environment.form : Form Environment :=
  let standard : Environment := {}
  mk <$>
    .defaulted "service_management_endpoint" standard.managementEndpoint
      Reader.text <*>
    .defaulted "resource_manager_endpoint" standard.resourceEndpoint
      Reader.text <*>
    .defaulted "api_version" standard.apiVersion Reader.text <*>
    .defaulted "token_env" standard.tokenVariable Reader.text

end ScheduledJobs
