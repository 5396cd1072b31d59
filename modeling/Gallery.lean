import Gallery.Http.Target
import Gallery.Main
import Gallery.Proofs.Store.Holds
import Gallery.Segment.Json
import Gallery.Proofs.Store.Refinement
import Gallery.Proofs.Address.Resolution
import Gallery.Proofs.Service.Upload
import Gallery.Proofs.Service.History
import Gallery.Proofs.Service.Retrieval
import Gallery.Proofs.Store.Frame
import Gallery.Proofs.Store.Files.Listing
import Gallery.Proofs.Store.Files.Insertion
import Gallery.Proofs.Store.Files.Faults
import Gallery.Proofs.Access.Verification
import Gallery.Proofs.Service.Answer
import Gallery.Proofs.Service.Isolation
import Gallery.Proofs.Service.Route
import Gallery.Proofs.Service.Reads
import Gallery.Proofs.Url.Unmarked
import Gallery.Proofs.Service.FolderPaths
import Gallery.Proofs.Service.ErrorBody
import Gallery.Proofs.Http.Target
import Gallery.Proofs.ImageUrls
import Gallery.Proofs.Service.Links
import Gallery.Proofs.Store.Objects
import Gallery.Proofs.Upload.Codec
import Gallery.Proofs.Service.Admission
import Gallery.Proofs.Text.Base64
import Gallery.Proofs.Text.Blank
import Gallery.Proofs.Service.UploadModes
import Gallery.Proofs.Settings.Origins
import Gallery.Proofs.Http.Cors
import Gallery.Proofs.Settings.Validation
import Gallery.Proofs.Service.Start
import Gallery.Proofs.Store.Files.OneImage
import Gallery.Proofs.Store.FileTree.Spelling
import Gallery.Proofs.Store.Files.Confinement
import Gallery.Proofs.Store.Files.Leftovers
import Gallery.Proofs.Upload.Folding
import Gallery.Proofs.Upload.Checks
import Gallery.Proofs.Service.SizeGates
import Gallery.Proofs.Segment.Faults
import Gallery.Proofs.Service.Questions
import Gallery.Proofs.Service.OwnerGate
import Gallery.Proofs.Settings.Keys
import Gallery.Proofs.Text.Number
import Gallery.Proofs.Time.Date
import Gallery.Proofs.Time.Instant
import Gallery.Proofs.Uuid
import Gallery.Proofs.Address.Generation
import Gallery.Proofs.Upload.FormData
import Gallery.Proofs.Http.ErrorReport
