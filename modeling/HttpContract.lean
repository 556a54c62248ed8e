import HttpContract.Document
import HttpContract.Matching.Selection
import HttpContract.Proofs.Body.Replacement
import HttpContract.Proofs.Document.BodyEntry
import HttpContract.Proofs.Document.Faithful
import HttpContract.Proofs.Draft.Matches
import HttpContract.Proofs.Expression.Evaluation
import HttpContract.Proofs.Fields.ContentType
import HttpContract.Proofs.Fields.Generators
import HttpContract.Proofs.Fields.Repeated
import HttpContract.Proofs.Headers.Consistency
import HttpContract.Proofs.Headers.Cookies
import HttpContract.Proofs.Json.Inherited
import HttpContract.Proofs.Json.ReadBack
import HttpContract.Proofs.Matching.Cascade
import HttpContract.Proofs.Matching.Descent
import HttpContract.Proofs.Matching.Equality
import HttpContract.Proofs.Matching.Generated
import HttpContract.Proofs.Matching.Numbers
import HttpContract.Proofs.Matching.OwnExample
import HttpContract.Proofs.Matching.Specific
import HttpContract.Proofs.Matching.Types
import HttpContract.Proofs.MediaType.Written
import HttpContract.Proofs.Path.Writing
import HttpContract.Proofs.Rule.History
import HttpContract.Proofs.Session.Copy
import HttpContract.Proofs.Session.Provider
import HttpContract.Proofs.Xml.Places
import HttpContract.Proofs.Xml.Version
import HttpContract.Rule.Edit
