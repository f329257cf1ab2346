import CodeHighlight.FileTree
import CodeHighlight.Highlighter.Session
import CodeHighlight.Main
import CodeHighlight.Proofs.Highlighter.Blocks
import CodeHighlight.Proofs.Highlighter.Independence
import CodeHighlight.Proofs.Highlighter.Strictness
import CodeHighlight.Proofs.Language.Embedded
import CodeHighlight.Proofs.Registry.Preload
import CodeHighlight.Proofs.Theme.Log
import CodeHighlight.Proofs.Registry.Stages
import CodeHighlight.Proofs.Render.Order
import CodeHighlight.Proofs.Render.Seam
import CodeHighlight.Proofs.CommandLine.Printing
import CodeHighlight.Proofs.Theme.Cascade
import CodeHighlight.Proofs.Theme.Listing
import CodeHighlight.Proofs.Render.Colors
import CodeHighlight.Proofs.Markup.Reading
import CodeHighlight.Proofs.Render.Visibility
import CodeHighlight.Proofs.Render.Sweep
import CodeHighlight.Proofs.Text.Words
import CodeHighlight.Proofs.Theme.Classes
import CodeHighlight.Highlighter.Precedence
import CodeHighlight.Proofs.Highlighter.Precedence
import CodeHighlight.Proofs.PathText
import CodeHighlight.Proofs.Text.ByteOrder
import CodeHighlight.Theme.Directory
import CodeHighlight.Proofs.Theme.Directory
import CodeHighlight.Proofs.Markup.Stretches
import CodeHighlight.Proofs.Render.Clamping
import CodeHighlight.Proofs.CommandLine.Detection
import CodeHighlight.Proofs.Registry.Naming
import CodeHighlight.Proofs.CommandLine.Timeouts
