import UsedCss.Main
import UsedCss.Proofs.ClassSet
import UsedCss.Proofs.Collect
import UsedCss.Proofs.Outcome
import UsedCss.Proofs.Text.Find
import UsedCss.Proofs.Text.Lines
import UsedCss.Proofs.Text.TrimmedLines
import UsedCss.Proofs.Text.Words
import UsedCss.Proofs.Css.Block
import UsedCss.Proofs.Css.Idempotence
import UsedCss.Proofs.Css.RoundTrip
import UsedCss.Proofs.Css.Sheet
import UsedCss.Proofs.Css.Unbalanced
import UsedCss.Proofs.Css.Nesting
import UsedCss.Proofs.Css.WellNested
import UsedCss.Proofs.Css.Comment
import UsedCss.Proofs.Css.Output
import UsedCss.Proofs.Css.Compare
import UsedCss.Proofs.Css.Target
import UsedCss.Proofs.Css.Alike
import UsedCss.Proofs.Css.Reformat
import UsedCss.Proofs.Css.Append
import UsedCss.Proofs.Css.Verbatim
import UsedCss.Proofs.Css.Packed
import UsedCss.Proofs.Css.State
import UsedCss.Proofs.Html.Links
import UsedCss.Proofs.Html.Teardown
import UsedCss.Proofs.Html.Run
import UsedCss.Proofs.Html.Walk
import UsedCss.Proofs.Html.Classes
import UsedCss.Proofs.Html.Markup
import UsedCss.Proofs.Html.Lexing
import UsedCss.Proofs.Html.Growth
import UsedCss.Proofs.Html.Building
import UsedCss.Proofs.CommandLine.Effects
import UsedCss.Proofs.CommandLine.Words
import UsedCss.Proofs.CommandLine.Agreement
import UsedCss.Proofs.Css.Layouts
import UsedCss.Proofs.Css.WholeText
import UsedCss.Proofs.Css.InnerRules
import UsedCss.Proofs.Css.SelectorList
import UsedCss.Proofs.Css.NamePlaces
import UsedCss.Proofs.Html.Siblings
import UsedCss.Proofs.Html.Turns
import UsedCss.Proofs.Html.Attributes
import UsedCss.Proofs.Extract
import UsedCss.Proofs.ClassSet.History
import UsedCss.Html.Sink
import UsedCss.Proofs.Html.Reports
import UsedCss.Proofs.Html.Tree.Body
import UsedCss.Proofs.Html.Tree.Construct
import UsedCss.Proofs.Strict
