import Sift.Document.Written
import Sift.Main
import Sift.Proofs.CompileFault
import Sift.Proofs.Dated
import Sift.Proofs.Folder.Locality
import Sift.Proofs.Me
import Sift.Proofs.PhraseMatch
import Sift.Proofs.Write.Search
import Sift.Proofs.Literal.Size
import Sift.Proofs.Star
import Sift.Proofs.Document.Spelling
import Sift.Proofs.Document.Search
import Sift.Proofs.Folder.Mountpoint
import Sift.Proofs.Literal.Century
import Sift.Proofs.Reread.Subpath
import Sift.Proofs.Write.Structured
import Sift.Proofs.Reread.DefaultField
import Sift.Proofs.Reread.Quick
import Sift.Proofs.Folder.Addition
import Sift.Proofs.Folder.SystemName
import Sift.Proofs.Mailbox.OwnPath
import Sift.Proofs.Mailbox.StoredPath
import Sift.Proofs.Mailbox.Hierarchy
import Sift.Proofs.Literal.Zone
import Sift.Proofs.Addresses
import Sift.Proofs.StructuredNumber
import Sift.Proofs.Stream
import Sift.Proofs.PhraseOffset
import Sift.Proofs.Visit
