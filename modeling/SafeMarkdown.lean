import SafeMarkdown.Preview
import SafeMarkdown.Proofs.Conversion.Section
import SafeMarkdown.Proofs.Preview
import SafeMarkdown.Proofs.Rendering.RawText
import SafeMarkdown.Proofs.Rendering.Depth
import SafeMarkdown.Proofs.Rendering.Purified
import SafeMarkdown.Proofs.Rendering.Lossless
import SafeMarkdown.Proofs.Html.RoundTrip
import SafeMarkdown.Proofs.Rendering.Halves
import SafeMarkdown.Proofs.Rendering.Observation
import SafeMarkdown.Proofs.Rendering.Texts
import SafeMarkdown.Proofs.Options.Intersection
import SafeMarkdown.Proofs.Rendering.Composition
import SafeMarkdown.Proofs.Rendering.Constructs
import SafeMarkdown.Proofs.Conversion.Siblings
import SafeMarkdown.Proofs.Rendering.VoidElements
import SafeMarkdown.Proofs.Renderer.Run
import SafeMarkdown.Proofs.Rendering.Height
import SafeMarkdown.Proofs.Conversion.Forest
import SafeMarkdown.Proofs.Rendering.Wrapping
import SafeMarkdown.Proofs.Html.Unclosed
import SafeMarkdown.Proofs.Commonmark.StartTags
import SafeMarkdown.Proofs.Options.Canonical
import SafeMarkdown.Proofs.Conversion.ImageText
import SafeMarkdown.Proofs.Rendering.SoftBreaks
import SafeMarkdown.Proofs.Html.SelfClosing
