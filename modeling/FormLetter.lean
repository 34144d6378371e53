import FormLetter.Argon2
import FormLetter.Http.Application
import FormLetter.Proofs.Dependence
import FormLetter.Proofs.Http.Atomicity
import FormLetter.Proofs.Http.Authorization
import FormLetter.Proofs.Service.Preview
import FormLetter.Proofs.Service.Revision
import FormLetter.Proofs.Verdict
import FormLetter.Proofs.Store.History
import FormLetter.Proofs.Page
import FormLetter.Proofs.Service.Listing
import FormLetter.Proofs.Base64
import FormLetter.Proofs.Password
import FormLetter.Proofs.Service.AccountHistory
import FormLetter.Proofs.Rerendering
import FormLetter.Proofs.Service.Refusal
import FormLetter.Proofs.Http.Backend
import FormLetter.Proofs.Json.Grammar
import FormLetter.Proofs.Json.Lexeme
import FormLetter.Proofs.Json.Scan
import FormLetter.Proofs.Json.Print
import FormLetter.Proofs.ContentFormat
import FormLetter.Proofs.Text
import FormLetter.Proofs.Token
import FormLetter.Proofs.Http.Bearer
import FormLetter.Proofs.Locality
import FormLetter.Proofs.Respacing
import FormLetter.Proofs.ByteOrder
import FormLetter.Proofs.Fieldwise
import FormLetter.Store.Concurrent
import FormLetter.Proofs.Store.Interleaving
import FormLetter.Proofs.Store.Composition
import FormLetter.Proofs.Category
import FormLetter.Proofs.Service.Creation
import FormLetter.Proofs.Integer
import FormLetter.Proofs.Json.Record
import FormLetter.Proofs.Http.Path
import FormLetter.Proofs.Http.Rendering
import FormLetter.Proofs.Json.Fields
import FormLetter.Proofs.Token.Acceptance
import FormLetter.Proofs.Http.Admission
import FormLetter.Proofs.Http.Origins
import FormLetter.Proofs.Service.Lifetime
import FormLetter.Proofs.Settings.Verdict
