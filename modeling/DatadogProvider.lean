import DatadogProvider.Python
import DatadogProvider.Alert
import DatadogProvider.Payload
import DatadogProvider.FormatAlert
import DatadogProvider.Vendor
import DatadogProvider.GetAlerts
import DatadogProvider.PathAgreement
import DatadogProvider.Mute
import DatadogProvider.SetupWebhook
import DatadogProvider.Scopes
import DatadogProvider.Query
import DatadogProvider.Configuration
import DatadogProvider.Provider
import DatadogProvider.Tenants
