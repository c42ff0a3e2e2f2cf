import CatalogSearch.Engine.InMemory
import CatalogSearch.Engine.Wire
import CatalogSearch.Http.Scripted
import CatalogSearch.Session
import CatalogSearch.Proofs.Query.Meaning
import CatalogSearch.Proofs.Query.Translation
import CatalogSearch.Proofs.Service.Lookup
import CatalogSearch.Proofs.Response.Assembly
import CatalogSearch.Proofs.Service.Mutation
import CatalogSearch.Proofs.Value.Conversion
import CatalogSearch.Proofs.Value.Edit
import CatalogSearch.Proofs.Service.Persistence
import CatalogSearch.Proofs.Service.Dispatch
import CatalogSearch.Proofs.Service.Isolation
import CatalogSearch.Proofs.Http.Search
import CatalogSearch.Proofs.Session.Step
import CatalogSearch.Proofs.Session.Account
import CatalogSearch.Proofs.Service.Rejection
import CatalogSearch.Proofs.Value.Finite
import CatalogSearch.Proofs.Field.Table
import CatalogSearch.Proofs.Response.Entry
import CatalogSearch.Proofs.Service.Visibility
import CatalogSearch.Proofs.Response.Wire
import CatalogSearch.Proofs.Service.Interleaving
import CatalogSearch.Proofs.Http.Update
import CatalogSearch.Proofs.Service.Removal
import CatalogSearch.Proofs.Value.Texts
import CatalogSearch.Proofs.Service.Uniqueness
import CatalogSearch.Proofs.Service.Verdict
import CatalogSearch.Proofs.Json.Printer
import CatalogSearch.Proofs.Http.Body
import CatalogSearch.Proofs.Value.Codec
