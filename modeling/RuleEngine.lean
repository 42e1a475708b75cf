import RuleEngine.Function.Host
import RuleEngine.Main
import RuleEngine.Record.Serial
import RuleEngine.Text.Utf8
import RuleEngine.Pattern.Literal
import RuleEngine.Proofs.Parser.Branches
import RuleEngine.Proofs.Token.Layout
import RuleEngine.Proofs.Evaluation.Depth
import RuleEngine.Proofs.Engine.Enlarging
import RuleEngine.Proofs.Evaluation.Kinds
import RuleEngine.Proofs.Engine.Names
import RuleEngine.Proofs.Token.Spelling
import RuleEngine.Proofs.Engine.Reading
import RuleEngine.Proofs.Engine.Absent
import RuleEngine.Proofs.Evaluation.Matching
import RuleEngine.Proofs.Cache.Contents
import RuleEngine.Proofs.Evaluation.Scanning
import RuleEngine.Proofs.Parser.Offsets
import RuleEngine.Proofs.Evaluation.Chains
import RuleEngine.Proofs.Record.Faults
import RuleEngine.Proofs.Evaluation.Duality
import RuleEngine.Proofs.Operator.Integers
import RuleEngine.Proofs.Operator.Table
import RuleEngine.Proofs.Engine.Compiling
import RuleEngine.Proofs.Parser.Bookkeeping
import RuleEngine.Proofs.Engine.Literals
import RuleEngine.Proofs.Engine.Recursion
import RuleEngine.Proofs.Engine.Recompiling
