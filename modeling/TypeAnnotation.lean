import TypeAnnotation.Command.Files
import TypeAnnotation.Cursor
import TypeAnnotation.Cursor.Routine
import TypeAnnotation.Descriptor.Draft
import TypeAnnotation.Main
import TypeAnnotation.Proofs.Grammar
import TypeAnnotation.Proofs.Stops
import TypeAnnotation.Proofs.Reading
import TypeAnnotation.Proofs.Acceptance
import TypeAnnotation.Proofs.Viability
import TypeAnnotation.Proofs.Locality
import TypeAnnotation.Proofs.Annotation
import TypeAnnotation.Proofs.Canonical
import TypeAnnotation.Proofs.PrintedDescriptor
import TypeAnnotation.Proofs.NullFold
import TypeAnnotation.Proofs.Composition
import TypeAnnotation.Proofs.Flattening
import TypeAnnotation.Proofs.JoinedAnnotation
import TypeAnnotation.Proofs.Tiling
import TypeAnnotation.Proofs.WellFormed
import TypeAnnotation.Proofs.Losses
import TypeAnnotation.Proofs.Routine
import TypeAnnotation.Proofs.CursorRun
import TypeAnnotation.Proofs.ClassNames
import TypeAnnotation.Proofs.Tags
import TypeAnnotation.Proofs.ErrorMessages
import TypeAnnotation.Proofs.JsonText
import TypeAnnotation.Proofs.YamlText
import TypeAnnotation.Proofs.DescriptorDocument
import TypeAnnotation.Proofs.Screens
import TypeAnnotation.Proofs.BatchDocument
import TypeAnnotation.Proofs.BatchIsolation
import TypeAnnotation.Proofs.BracketedName
import TypeAnnotation.Proofs.DistinctNames
import TypeAnnotation.Proofs.ArrayForms
import TypeAnnotation.Proofs.Spacing
import TypeAnnotation.Proofs.Respelling
import TypeAnnotation.Proofs.Accounting
import TypeAnnotation.Proofs.ShownAnnotation
import TypeAnnotation.Proofs.OutputSize
