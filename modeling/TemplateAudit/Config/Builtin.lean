import TemplateAudit.Config.Basic

/-!
# Built-in rules

The rules that are run when no configuration is given: common misconfigurations of web apps and
storage accounts, and the schema of the template itself.
-/

namespace TemplateAudit

set_option autoImplicit false

def helpPage (name : String) : String :=
  "https://azure.github.io/PSRule.Rules.Azure/en/rules/" ++ name ++ "/"

namespace Rule

def remoteDebug : Rule where
  id := "AZR-000081"
  name := "Azure.AppService.RemoteDebug"
  description := "Disable remote debugging on App Service apps"
  helpUri := helpPage "Azure.AppService.RemoteDebug"
  recommendation := "Set properties.siteConfig.remoteDebuggingEnabled to false"
  severity := .error
  category := .security
  resourceType := some "Microsoft.Web/sites"
  check := ⟨"properties.siteConfig.remoteDebuggingEnabled", .equals (.bool false),
    some (.bool false)⟩

def useHttps : Rule where
  id := "AZR-000075"
  name := "Azure.AppService.UseHTTPS"
  description := "App Service apps should only accept encrypted connections"
  helpUri := helpPage "Azure.AppService.UseHTTPS"
  recommendation := "Set properties.httpsOnly to true"
  severity := .error
  category := .security
  resourceType := some "Microsoft.Web/sites"
  check := ⟨"properties.httpsOnly", .equals (.bool true), some (.bool false)⟩

def minTls : Rule where
  id := "AZR-000073"
  name := "Azure.AppService.MinTLS"
  description := "App Service apps should reject TLS versions older than 1.2"
  helpUri := helpPage "Azure.AppService.MinTLS"
  recommendation := "Set properties.siteConfig.minTlsVersion to 1.2"
  severity := .error
  category := .security
  resourceType := some "Microsoft.Web/sites"
  check := ⟨"properties.siteConfig.minTlsVersion", .oneOf [.string "1.2", .string "1.3"],
    some (.string "1.2")⟩

def secureTransfer : Rule where
  id := "AZR-000199"
  name := "Azure.Storage.SecureTransfer"
  description := "Storage accounts should only accept encrypted connections"
  helpUri := helpPage "Azure.Storage.SecureTransfer"
  recommendation := "Set properties.supportsHttpsTrafficOnly to true"
  severity := .error
  category := .security
  resourceType := some "Microsoft.Storage/storageAccounts"
  check := ⟨"properties.supportsHttpsTrafficOnly", .equals (.bool true), some (.bool true)⟩

def storageName : Rule where
  id := "AZR-000190"
  name := "Azure.Storage.Name"
  description := "Storage account names should meet naming requirements"
  helpUri := helpPage "Azure.Storage.Name"
  recommendation := "Use 3-24 lowercase letters and numbers for storage account names"
  severity := .warning
  category := .general
  resourceType := some "Microsoft.Storage/storageAccounts"
  check := ⟨"name", .matching "^[a-z0-9]\x7b3,24\x7d$", none⟩

def templateSchema : Rule where
  id := "AZR-000222"
  name := "Azure.Template.TemplateSchema"
  description := "Templates should declare a deployment template schema"
  helpUri := helpPage "Azure.Template.TemplateSchema"
  recommendation := "Add a $schema property referencing a deployment template schema"
  severity := .info
  category := .general
  check := ⟨"$schema", .present true, none⟩

end Rule

/-- The configuration that is used when none is given. -/
def Config.builtin : Config where
  rules := [Rule.remoteDebug, Rule.useHttps, Rule.minTls, Rule.secureTransfer, Rule.storageName,
    Rule.templateSchema]

def Config.withoutRules : Config :=
  { Config.builtin with rules := [] }

end TemplateAudit
