import GoDto.Main
import GoDto.Files.Directory
import GoDto.Proofs.Acceptance
import GoDto.Proofs.CodeContents
import GoDto.Proofs.Continuation
import GoDto.Proofs.CursorReaders
import GoDto.Proofs.Jobs
import GoDto.Proofs.LineEnds
import GoDto.Proofs.LookupEvents
import GoDto.Proofs.Lossless
import GoDto.Proofs.ReadBack
import GoDto.Proofs.Regeneration
import GoDto.Proofs.Relabelling
import GoDto.Proofs.Repetition
import GoDto.Proofs.Reports
import GoDto.Proofs.Retagging
import GoDto.Proofs.Unreadable
import GoDto.Proofs.TypeInstances
import GoDto.Proofs.ArrayLengths
import GoDto.Proofs.Classification
import GoDto.Proofs.Nesting
import GoDto.Proofs.Lookahead
import GoDto.Proofs.UnreadGroups
import GoDto.Proofs.TreePlaces
import GoDto.Proofs.Diagnostics
import GoDto.Proofs.CodeWords
import GoDto.Proofs.Documents
