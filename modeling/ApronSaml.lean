import ApronSaml.Library.Raising
import ApronSaml.Library.Whitespace
import ApronSaml.Library.ElementTree
import ApronSaml.Library.CanonicalEvents
import ApronSaml.Library.Chronology
import ApronSaml.Library.Calendar
import ApronSaml.Library.IsoFormat
import ApronSaml.Library.IsoTexts
import ApronSaml.Library.XsDateTime
import ApronSaml.Library.Window
import ApronSaml.Library.TextEncoding
import ApronSaml.Library.Base64
import ApronSaml.Library.Inflate
import ApronSaml.Library.Deflate
import ApronSaml.Library.Url
import ApronSaml.Library.UrlRebuild
import ApronSaml.Library.Query
import ApronSaml.Library.HtmlTokens
import ApronSaml.Library.FirstSeen
import ApronSaml.Library.SingleUse
import ApronSaml.Library.Scoping
import ApronSaml.Library.ContentModel
import ApronSaml.Library.XmlSchema
import ApronSaml.AuthnRequest
import ApronSaml.AcceptanceWindow
import ApronSaml.DocumentReading
import ApronSaml.IdResolution
import ApronSaml.MetadataErrors
import ApronSaml.UnsignedContent
import ApronSaml.AlgorithmCoverage
import ApronSaml.CertificateRollover
import ApronSaml.StatusSemantics
import ApronSaml.TrustAnchor
import ApronSaml.EndpointSelection
import ApronSaml.RedirectPayloads
import ApronSaml.RedirectBinding
import ApronSaml.PostBinding
import ApronSaml.IsoTimestamps
import ApronSaml.SignedContent
import ApronSaml.Requests
import ApronSaml.Answers
import ApronSaml.Federation
import ApronSaml.ErrorFrontier
import ApronSaml.LoginRuns
import ApronSaml.IdentityProvider
import ApronSaml.AssertionSchema
import ApronSaml.SchemaConformance
import ApronSaml.DocumentNamespaces
import ApronSaml.PublishedMetadata
import ApronSaml.Envelopes
import ApronSaml.UnsignedProbes
import ApronSaml.SignedOutcome
