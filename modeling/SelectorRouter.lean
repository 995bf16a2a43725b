import SelectorRouter.CommandLine.Run
import SelectorRouter.Main
import SelectorRouter.Proofs.Code.Token
import SelectorRouter.Proofs.Fallible
import SelectorRouter.Proofs.Code.Literal
import SelectorRouter.Proofs.Dispatch.Layout
import SelectorRouter.Proofs.Dispatch.Search
import SelectorRouter.Proofs.Dispatch.Depth
import SelectorRouter.Proofs.Dispatch.Nodes
import SelectorRouter.Proofs.Dispatch.Balance
import SelectorRouter.Proofs.Address
import SelectorRouter.Proofs.Keccak
import SelectorRouter.Proofs.Module
import SelectorRouter.Proofs.Diamond.Loupe
import SelectorRouter.Proofs.Constant.Declaration
import SelectorRouter.Proofs.Router.Emission
import SelectorRouter.Proofs.Diamond.Registry
import SelectorRouter.Proofs.Router.Routing
import SelectorRouter.Proofs.Abi.Parameter
import SelectorRouter.Proofs.Abi.Function
import SelectorRouter.Proofs.Abi.Signature
import SelectorRouter.Proofs.Module.Check
import SelectorRouter.Proofs.Module.Collect
import SelectorRouter.Proofs.Router.Selection
import SelectorRouter.Proofs.Router.Generation
import SelectorRouter.Proofs.Template.Rendering
import SelectorRouter.Proofs.Template.Contract
import SelectorRouter.Proofs.Router.Outcome
import SelectorRouter.Proofs.Router.Indifference
import SelectorRouter.Proofs.Router.Texts
import SelectorRouter.Proofs.Module.Order
import SelectorRouter.Proofs.Router.Order
import SelectorRouter.Proofs.Router.Filtering
import SelectorRouter.Proofs.Code.Line
import SelectorRouter.Proofs.Dispatch.Outline
import SelectorRouter.Proofs.Dispatch.Placement
import SelectorRouter.Proofs.Router.Comments
import SelectorRouter.Proofs.Files.Path
import SelectorRouter.Proofs.Files.Loading
import SelectorRouter.Proofs.Files.Writing
import SelectorRouter.Proofs.CommandLine.Delivery
import SelectorRouter.Proofs.Session.Messages
import SelectorRouter.Proofs.Router.Contexts
import SelectorRouter.Proofs.Dispatch.Refusal
import SelectorRouter.Proofs.Abi.Grammar
import SelectorRouter.Proofs.Constant.Spelling
import SelectorRouter.Proofs.Constant.Assignment
import SelectorRouter.Proofs.Constant.Numbering
import SelectorRouter.Proofs.Constant.Reading
import SelectorRouter.Proofs.Module.Collisions
import SelectorRouter.Proofs.Router.Warnings
import SelectorRouter.Proofs.Code.Indentation
import SelectorRouter.Proofs.Solidity.Arrays
import SelectorRouter.Proofs.Diamond.Arrays
import SelectorRouter.Proofs.Number.Digits
import SelectorRouter.Proofs.Address.Checksum
import SelectorRouter.Proofs.Template.Layout
import SelectorRouter.Proofs.Selector
