import DocMarkup.Block.Region
import DocMarkup.Json.Reader
import DocMarkup.Session.Step
import DocMarkup.TypeExpr.Agree
import DocMarkup.Proofs.Tag.FirstTag
import DocMarkup.Proofs.Tag.RoundTrip
import DocMarkup.Proofs.Tag.Tiling
import DocMarkup.Proofs.TypeExpr.Layout
import DocMarkup.Proofs.TypeExpr.Outcome
import DocMarkup.Proofs.TypeExpr.Reach
import DocMarkup.Proofs.TypeExpr.Risk
import DocMarkup.Proofs.TypeExpr.Script
import DocMarkup.Proofs.TypeExpr.Failure
import DocMarkup.Proofs.TypeExpr.Recursion
import DocMarkup.Proofs.TypeExpr.Termination
import DocMarkup.Proofs.TypeExpr.Alike.Shape
import DocMarkup.Proofs.TypeExpr.Alike.Walk
import DocMarkup.Proofs.TypeExpr.Alike.Layout
import DocMarkup.Proofs.Tag.Cut
import DocMarkup.Proofs.Comment.Accounting
import DocMarkup.Proofs.Comment.Summary
import DocMarkup.Proofs.Tag.Prefix
import DocMarkup.Proofs.Comment.Restart
import DocMarkup.Proofs.TypeExpr.Flattening
import DocMarkup.Proofs.TypeExpr.Wording
import DocMarkup.Proofs.TypeExpr.Simplified
import DocMarkup.Proofs.TypeExpr.Visits
import DocMarkup.Proofs.TypeExpr.Unfolding
import DocMarkup.Proofs.TypeExpr.Opened
import DocMarkup.Proofs.TypeExpr.Marks
import DocMarkup.Proofs.TypeExpr.NullShown
import DocMarkup.Proofs.Link.Resolution
import DocMarkup.Proofs.TypeExpr.Brackets
import DocMarkup.Proofs.Link.Address
import DocMarkup.Proofs.Comment.Sentence
import DocMarkup.Proofs.Block.Closing
import DocMarkup.Proofs.Block.Writing
import DocMarkup.Proofs.Comment.Exchange
import DocMarkup.Proofs.Config.Opening
import DocMarkup.Proofs.Log.Setup
import DocMarkup.Proofs.TypeExpr.FieldNames
import DocMarkup.Proofs.Tag.Matching
import DocMarkup.Proofs.Block.Inside
