import LocaleText.Main
import LocaleText.Disk.FileTree
import LocaleText.Proofs.Alternatives
import LocaleText.Proofs.Segments
import LocaleText.Proofs.Faults
import LocaleText.Proofs.RoundTrip
import LocaleText.Proofs.Influence
import LocaleText.Proofs.Compaction
import LocaleText.Proofs.Caching
import LocaleText.Proofs.Loading
import LocaleText.Proofs.Reachability
import LocaleText.Proofs.ByteOrder
import LocaleText.Proofs.Flattening
import LocaleText.Proofs.Groups
import LocaleText.Proofs.Fallback
import LocaleText.Proofs.Appearance
import LocaleText.Proofs.Rebinding
import LocaleText.Proofs.Histories
import LocaleText.Proofs.Refusals
import LocaleText.Proofs.PackOrder
import LocaleText.Proofs.Verdict
import LocaleText.Proofs.CleanCheck
import LocaleText.Proofs.Keys
import LocaleText.Proofs.Spellings
import LocaleText.Proofs.Spacing
import LocaleText.Proofs.LabelledLists
import LocaleText.Proofs.LabelledTexts
import LocaleText.Proofs.Rendering
import LocaleText.Proofs.SwitchTables
import LocaleText.Proofs.Concatenation
import LocaleText.Proofs.Selection
import LocaleText.Proofs.Substitution
import LocaleText.Proofs.Chains
import LocaleText.Proofs.NormalForm
import LocaleText.Proofs.Positions
import LocaleText.Proofs.Balance
import LocaleText.Proofs.GivenDirectory
